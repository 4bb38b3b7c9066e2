import Provenance.Text.Language.Basic

namespace Provenance.Text.Language

def french : Language :=
  .ofLists (-25)
    [(2, " "), (3, "aei"), (4, "dlnorstu"), (5, "cmpé"), (6, "bfghv"), (7, "kqyè"), (8, "jxzà"),
     (9, "wê"), (10, "âçîïœ"), (11, "ùû"), (12, "ô")]
    [(254, "é ée"), (203, " étéà "), (162, " àdénéré"), (130, "ér"), (104, "émését"),
     (83, "méèrélêt"), (66, "rèèm"), (53, "géièmèsévéèsén"), (42, " ê îaïlétèètévîlœu"),
     (34, "uéécég"), (27, "célènççaépéé"), (22, "hèhérêçoédéf"), (18, " œcœeçlàoùpérâsûâcâtù ûr"),
     (14, "mêzéèqéoêm"), (11, "cècôiéyéègébï ôt"),
     (9, " âaîdèhâjànêoèpèrçsèsœvêâgçuèbècèdèlèvéjéâêqîtïf"), (7, "béèn"), (6, "fééa"),
     (5, "eïwééqî ït"), (4, "açïd"), (3, "oïpêêcïn"),
     (2, "aégèhîiêképârîrôuèvèâqéiékéuézïaïmïqïrôl"), (1, "hôjéoûtîtôéhéwînïbïcïeïlïwô ût"),
     (0, "nèoéè ")]

def spanish : Language :=
  .ofLists (-25)
    [(2, " "), (3, "aeio"), (4, "cdlnrst"), (5, "mpu"), (6, "bghvó"), (7, "fqyáéíñ"), (8, "jkzú"),
     (9, "wx")]
    [(162, "ióón"), (83, "añ"), (66, "ñoó "), (53, "mátááníaña"), (42, "á ésín"),
     (34, "eñlíráríí "), (27, "ás"), (22, " á é úísún"), (18, "cídónítóár"),
     (14, "gúmésíuéáléníoítómúl"), (11, "aícólélónónúé ér"), (9, " íbífíiépúuívááxélétéxólú úb"),
     (7, "cédínétízóágñíúm"), (6, "móréód"), (5, "démímúrórútévéáfápífús"),
     (4, "bégígóiñjóoñpápéséuñzáámáqátéfépícídópút"), (3, "sáórúc"), (2, "búdáiálásótúyááiéiímír"),
     (1, " ócúhíhúnápóábáuíqívóxúa"), (0, " ñaéaúbócádúeúlúoéoípíuávóáaádéaémíeílípñeñióbótúr")]

def portuguese : Language :=
  .ofLists (-25)
    [(2, " "), (3, "aeo"), (4, "dimnrstu"), (5, "clp"), (6, "bfghvã"), (7, "qáçí"), (8, "jkxzéêó"),
     (9, "wyôõú"), (10, "â"), (11, "à")]
    [(254, "ão"), (104, "çã"), (83, "açár"), (66, "rá"), (53, "á é "), (42, "çaêsõe"),
     (34, "nãnçrãór"), (27, " émãsãçõ"), (22, "aícêiçlítóuáçoên"), (18, "eçmótãâmã émídís"),
     (14, " à ámásíágê ínítívód"), (11, "cóháiênírêtáuêésícôn"),
     (9, " úbéhãiãlônúpçrírótéuívávéânôm"), (7, " âdómênêxãálãeólúm"), (6, "lálâlêménérçósúlún"),
     (5, "cílémípápépúréséuçà érêmílípópóxúb"),
     (4, " êaúcâdêgêhõiõjánónôoãpípópôrârõtôvóvôzãàqàsáfáqásáxêxíró ómónô ôrúd"), (3, "sásõtíáb"),
     (2, "bádádônátâtêtõédíaím"), (1, " íbóbúdãeóiáiólãlúoçátávélíbígúc"),
     (0, "aébãcácãcçdédíeúgãiéiíoáoéoêoípãsóuévãácádápáuéaétéuêtí íoót")]

def italian : Language :=
  .ofLists (-25)
    [(2, " "), (3, "aeio"), (4, "dlnrst"), (5, "cgmpu"), (6, "bhv"), (7, "fzàè"), (8, "kqyò"),
     (9, "wéìù"), (10, "j"), (11, "x")]
    [(254, " ètàà è "), (162, "ò "), (104, "ì ù "), (83, "iùé "), (66, "rà"), (42, "dìhéiòrò"),
     (34, "sìtò"), (22, "nérìtù"), (11, "còdòfèiàlìlòmònìnòoèsésùtèuò"), (6, "mé"),
     (2, "pérééaém"), (1, " élérùtééférìc")]

def catalan : Language :=
  .ofLists (-25)
    [(2, " "), (3, "aei"), (4, "clnorstu"), (5, "dmp"), (6, "bghv"), (7, "fqxàèéíó"), (8, "jkyò"),
     (9, "wzçú"), (10, "ïü")]
    [(130, "ióó "), (104, "és"), (42, " éà ès"), (34, "méí "), (27, "tàça"), (22, "lírààné "),
     (18, " àtéè üe"), (14, "cègüiàlèmàuèínítòr"), (11, " úaçaílémímònçnènúrçrésóuíàmàrènísò ón"),
     (9, "là"), (7, "lòrèsíxíxòàlíl"), (6, "aïbédòeïfèiènòròsòtòuïvàvíàqïnïsòlòmòpòsúlúmún"),
     (5, " è òaóeómènépàqürívéàgàxçóèpèréiïdòdòxúr"), (4, "dètí"), (3, "eàfíàfàtíc"),
     (2, "càrúuààsímònú "),
     (1, " íbàbòbúcécícódàdíeçeògàjàkímóníoàoçpótètóvèàbçoèxíaíeífírívïtórúsül"),
     (0, " üaèaúcòiòlónàoèoípèpépísàsèuéàcàiàuç ècèlètélémídíoípòtúiü ")]

def corsican : Language :=
  .ofLists (-25)
    [(2, " "), (3, "ait"), (4, "cenrsu"), (5, "dhlopàè"), (6, "gmù"), (7, "bjvìò"), (8, "fq"),
     (9, "z")]
    [(254, "è "), (162, "à "), (130, " è"), (83, "hè"), (66, "tà"), (53, "ì "), (42, "iùù "),
     (34, "sòò "), (27, " à ùhàràùn"), (18, "hìjèrèsì"), (9, "dìuàuì")]

def romanian : Language :=
  .ofLists (-25)
    [(2, " "), (3, "aei"), (4, "clnorstu"), (5, "dmpă"), (6, "bfgvşţ"), (7, "hkzî"), (8, "â"),
     (9, "jwy"), (10, "x"), (11, "q")]
    [(254, "ă "), (162, "ţi"), (104, " î"), (83, "înşi"), (66, " ş"), (53, "aţ"), (42, "cănătăăr"),
     (34, "răsăşt"), (27, "aşzăânţă"), (22, " ţeşlă"), (18, "iţnţpă"), (14, "câeţmâ"),
     (11, "cţdăişătăţţa"), (9, "bămăvăâtîm"), (7, "ăm"), (6, "făgărţtââm"),
     (5, "pţăiăsăzş şaşuţu"), (4, "âr"), (3, "fâoţrârşsâuşuţâiănşnşoţe"),
     (2, "dâlţnşoşpâuăvâyţâlâuîiîlîşădăuşc"), (1, "ăpşe"), (0, "hălâtîîrăbăcăgşmşă")]

end Provenance.Text.Language
