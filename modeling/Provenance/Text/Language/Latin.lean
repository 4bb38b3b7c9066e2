import Provenance.Text.Language.Basic

namespace Provenance.Text.Language

def finnish : Language :=
  .ofLists (-25)
    [(2, " "), (3, "aeint"), (4, "klosuä"), (5, "jmprvy"), (6, "dh"), (7, "bcgö"), (9, "fwz"),
     (10, "qš"), (11, "xéž")]
    [(254, "ä "), (130, "tä"), (104, "ää"), (83, "än"), (66, "lävä"), (53, "käsä"),
     (42, "jämäpäyöäiäy"), (34, "häärät"), (27, "nääs"), (18, "älämöh"), (14, " äiärätöäköy"),
     (11, "äjö "), (9, "äv"), (7, "dälöähöl"), (6, "pöösöt"), (4, "džäpöi"),
     (3, " ötšyääeäoöjököv"), (2, "ašköméönööšašižaži"), (1, " šeähéréé šešk"), (0, "iörööpöäš ")]

def estonian : Language :=
  .ofLists (-25)
    [(2, " "), (3, "aeis"), (4, "dklnotu"), (5, "gmrv"), (6, "bhjpäõü"), (8, "fö"), (9, "š"),
     (10, "cž"), (11, "wyz"), (12, "qx")]
    [(53, "ärõi"), (42, " ü"), (34, " õpävõ"), (27, "kõküül"), (18, "lõsüäeõhõpõrööühüs"),
     (14, " äpõväälääõn"), (11, "jäkäsõtöõdõlõu"), (9, "lämätäänüm"), (7, " ömõtõtšäsötükünüt"),
     (6, " šdžtüža"), (5, "šišo"), (4, " žaüjõäiõgö öbüd"), (3, "hääbäkämödšašeži"), (2, "ähürüü"),
     (1, "ašišlünäädölönšu"), (0, "büdõeägõhõjükölönüpürüsöä ätõ õbõkõmõtõvõõü üaüp")]

def hungarian : Language :=
  .ofLists (-25)
    [(2, " "), (3, "ae"), (4, "iklnorstz"), (5, "bdgmváé"), (6, "fhjpuyöő"), (7, "cíóü"),
     (8, "úű"), (9, "w"), (10, "x"), (11, "q")]
    [(254, "és"), (203, " é"), (162, "álő "), (130, "ár"), (104, "ásélül"),
     (83, "dőkötátézáágánénérító "), (66, " álámáör"), (53, " úkémétövávéátétöz"),
     (42, " önérásásőég"), (34, "bádédígájákülénárózéájírönújű "),
     (27, " í ügéhálólőműrétótőzózüzőákámínötú ük"), (22, " őfálörörüséépöbölövők"),
     (18, " óeáiólílürűsíázékévézónórösőrűv"), (14, "bödáféfőgímómúnőrútítűzöémígízömürőbőd"),
     (11, "döhékípárőtüvízíádápé ókólósúrügőtőz"), (9, "gógőjükánínöpívőyöyűábébívógóiünűkűz"),
     (7, "dókóópől"), (6, "bófügöhíhúiámísóyőá ótóvögökúgúlúsútúzüzősőv"),
     (5, "bíeüfúfűgúgüiújökőnúpürívöyózúzűácáfáhéjíjóbódödüdütűlűr"), (4, "béföpéávéd"),
     (3, "hóí ócőf"), (2, "aójúpúsüuáófómúbúpüsőe"), (1, "bühünónüoásúvóyáyúáuécéhíaíbílöpöuúnüv"),
     (0, "aúcémütúéuídíkímóaóeózöeüaümőiőnűs")]

def turkish : Language :=
  .ofLists (-25)
    [(2, " "), (3, "aei"), (4, "dklnrst"), (5, "bmouyüış"), (6, "cghvzçğ"), (7, "fpö"), (9, "j"),
     (10, "w"), (11, "x"), (12, "q")]
    [(254, "ı "), (104, "aşişsıınır"), (83, " çdılınıünş "), (66, "ağrıtıürılışşl"),
     (53, " ö ştüşa"), (42, " üdüeğgüiçmıoğyıçaçiü ülğiıkşişt"),
     (34, "eşgökülürüyüçeçoükğeğuğıım"), (27, "bücıkıönörütızşe"), (22, " ıeçiğöğüzğ ğrıyşkşı"),
     (18, "açuğuşçüüçğlıs"), (14, "döfıkçzıç çıöyözüyğaıcıdığşm"), (11, "nüölşu"),
     (9, "hümüpırççtüşıf"), (7, "bögısüüm"), (6, "oşrş"),
     (5, "bıhıkölçnşsötçtöödüfüpüğğdğmğüşbşs"), (4, "zü"), (3, "pçüv"), (2, "ççübüsşçşü"),
     (1, "mçnçoçsçuçyöçböbüdğoşo"), (0, "aübçcüdçhçkşpürövıyşçmçrçuçyöiösücıbıpıtıvşg")]

def azerbaijani : Language :=
  .ofLists (-25)
    [(2, " "), (3, "air"), (4, "dln"), (5, "bekmoqstuvyı"), (6, "hxzçüş"), (7, "cfpöğ"), (8, "g"),
     (12, "jw")]
    [(162, "ı "), (66, " şrıın"), (53, " çdışd"), (42, "aşlıtıçoğu"), (34, " öişün"),
     (27, "sıölşi"), (22, "kımünıüküqırş "), (18, "bögöhüyüçüöyütğ "), (14, "çişa"),
     (11, " üaçağbşcükülçoğpürğtüuşçaörözümüsılıqşe"), (9, " ıbüsüuğyğçıü ülüuüçğvıdımığışşlşü"),
     (4, "ız"), (3, "eçgüürıs"), (2, "mıqırşzıç çeönşm"), (1, "düeşiçrüxşyşçuübğışt"),
     (0, "bçbıcıdçhçkökşlülşmçmşnçnünşoçoştöuçxüxıçmçrüeüvüyüşğağbğlıkşkşoşqşrşuşy")]

def irish : Language :=
  .ofLists (-25)
    [(2, " "), (3, "ain"), (4, "cehlorst"), (5, "dgmuáéí"), (6, "bóú"), (7, "fp"), (9, "kv"),
     (10, "y"), (11, "wz"), (12, "jqx")]
    [(203, "á áié í ío"), (162, "sééaéi"), (130, "rítáúi"), (104, "aíhéníó ói"), (83, " é óeá"),
     (66, "iúláánír"), (53, "déhímósítíátíl"), (42, " á ímúrásátúínú ús"), (34, " údóhálíréíc"),
     (27, "ménáúr"), (22, "cóhóhúmánórótéárórún"), (18, "bécécúdádídúmírúsúálásítósúl"),
     (14, "cáfápéísón"), (11, "ló"), (9, "né"), (7, "lú"), (6, "gágégónúúb"), (5, "báuávéácógóm"),
     (4, "féfópápítóólúd"), (3, "ábúc"), (2, "bíbúcígúiálépósóvááíénívúgútúí"),
     (1, "bóiópúvíádágámídótóvúv"), (0, "fígíáúéléuíbígócódóhúáúó")]

def breton : Language :=
  .ofLists (-25)
    [(2, " "), (3, "aer"), (4, "ilnotu"), (5, "bdghkmsvz"), (6, "cpñ"), (7, "wù"), (8, "jyê"),
     (9, "f"), (10, "ô"), (12, "qx")]
    [(254, "aññ "), (162, "oùù "), (66, "êrñv"), (53, "iñ"), (42, "kê"), (18, "eñ"),
     (14, " ôgêñjôb"), (6, "nôôg"), (3, "ñs"), (2, "oñ"), (1, "iêêt"), (0, "ñcñi")]

end Provenance.Text.Language
