import Provenance.Text.Language.Basic

namespace Provenance.Text.Language

def german : Language :=
  .ofLists (-25)
    [(2, " "), (3, "einr"), (4, "adhlst"), (5, "bcgmou"), (6, "fkpwzü"), (7, "väö"), (8, "jyß"),
     (10, "x"), (11, "q"), (12, "é")]
    [(254, "än"), (203, "rü"), (162, "füähätübür"), (130, " ürötäß ße"),
     (104, " ähököläußösößücüh"), (83, "hämömüwäönörüdügülünüs"), (66, "güpärääuöcöfüf"),
     (53, "aßbäißlösüßt"), (42, " önätüög"), (34, "eßeölünüzüäcädöl"), (27, "mäzö"),
     (22, "küwüäröt"), (18, "büdüfägöhüjäjüoßsäsöwözäßißläföh"), (14, "nöäi"), (11, "mé"),
     (7, "äg"), (6, "réé "), (5, "üt"), (4, "dääléméu"), (3, "eähétöäsélüm"),
     (2, " éjölétéßnßräqäßéaéféiéröbük"), (1, "gäpüämöeöi")]

def dutch : Language :=
  .ofLists (-25)
    [(2, " e"), (3, "ain"), (4, "dorst"), (5, "cghlmu"), (6, "bfjkpvwz"), (7, "ë"), (8, "yèéï"),
     (9, "qóö"), (10, "xçêü")]
    [(203, "iëën"), (162, "eë"), (104, "ë "), (83, "ïn"), (66, "eïoöël"), (53, "én"),
     (34, " éaçcèeüféhèrèuêuïvóçaè èmèné ééêtóróóöpörün"), (14, "eéièèrëiïm"), (6, "aï"),
     (3, "ïr"), (2, "aëméréït"), (1, "bücóröéméuërïeïsöeüs"), (0, " üoïëmïaón")]

def afrikaans : Language :=
  .ofLists (-25)
    [(2, " e"), (3, "ar"), (4, "dilnost"), (5, "bgkmu"), (6, "hpvwyêë"), (7, "fj"), (8, "cé"),
     (9, "ïôöû"), (10, "zá"), (12, "qx")]
    [(104, "ë "), (83, "eëê "), (66, "iëêr"), (53, "oë"), (42, "lêmôsêëlërôr"),
     (27, "eïhêiénêoörûwêé ënïnûe"), (14, " é êaëkênáá énééêeêgöpör"), (2, "aï"), (1, "méëtït"),
     (0, "réélëeïe")]

def luxembourgish : Language :=
  .ofLists (-25)
    [(2, " "), (3, "en"), (4, "adhirst"), (5, "cglmoué"), (6, "bfkpwzäë"), (7, "v"), (8, "j"),
     (9, "y"), (11, "qü"), (12, "x")]
    [(203, "éi"), (83, "äi"), (53, "ën"), (34, "dézäës"), (27, " ëgéméréwëët"), (22, "sé"),
     (18, " ädëhélälëpéräsätéwéén"), (11, "mëpääeän"), (9, "béeëfëgëkékënézéäsé écéeëlëm"),
     (4, "süüd"), (3, "dä"), (2, "märëwä"), (1, "ëf"),
     (0, " éeäfägähänänësëtätëäcähälämärätéléuër")]

def swedish : Language :=
  .ofLists (-25)
    [(2, " "), (3, "aenr"), (4, "dilost"), (5, "ghkmuv"), (6, "bcfpäåö"), (7, "jy"), (9, "wxz"),
     (11, "qé")]
    [(254, "ör"), (203, "föärå "), (162, " ään"), (130, "vä"), (83, " å öråälån"), (66, "måpå"),
     (53, "läåtötöv"), (42, "räsåtäådårödön"), (34, "bödäfågöhöjämämösötövåätågåkös"),
     (27, "hänä"), (22, "dååsöa"), (18, "båfägåkönåröäpäsäväxököp"), (14, "lålösääg"),
     (11, "bäkäögöj"), (9, "dögäjökåäcäkö öc"), (6, "nööl"), (5, "é "), (3, "eöméré"),
     (2, "héuöål"), (1, "håyöåvéléméuöb"), (0, "aöädåböeöi")]

def danish : Language :=
  .ofLists (-25)
    [(2, " "), (3, "enr"), (4, "adgilost"), (5, "bfkmu"), (6, "hpvåæø"), (7, "cjy"), (9, "wz"),
     (11, "qxé")]
    [(203, "å ør"), (162, "ær"), (104, "føvæ"), (83, " åpåår"), (66, " æ øtøød"), (53, "læænøn"),
     (42, "kømåsøæs"), (34, "røsåådæbøj"), (27, "fåræælø "), (22, "gåhønånæøe"),
     (18, "båbøjæsæåbålånøbøsøv"), (14, "mæpøråæt"), (11, "døfægøkæædævér"),
     (9, "bædæhælémøtååtæ øk"), (7, "ås"), (4, "hånøæiøl"), (3, "æk"), (2, "eølåløpæåvøt"),
     (1, "eægæhéjøréuøé "), (0, "åeæfægøi")]

def norwegian : Language :=
  .ofLists (-25)
    [(2, " "), (3, "enr"), (4, "adiklost"), (5, "gmpu"), (6, "bfhvåø"), (7, "jy"), (8, "c"),
     (9, "æ"), (10, "wxz"), (12, "q")]
    [(254, "å "), (203, "ør"), (83, " åfømåpåår"), (66, "sø"), (53, " øjøråtøærød"),
     (42, "nåådåkønøy"), (34, "fåsåø "), (27, "lærøvæånøs"), (22, "pø"), (18, "bådøgåtåålåp"),
     (14, "høøk"), (11, "lø"), (9, "bæbømøåsæpøtøv"), (5, "øl"), (4, "åv"), (3, "nø"),
     (2, "kølåvåøeøg"), (1, "eøæs"), (0, "aøeæiøræuø")]

def icelandic : Language :=
  .ofLists (-25)
    [(2, " "), (3, "anr"), (4, "egiklstu"), (5, "fmovíð"), (6, "bdhjáóöúþ"), (7, "pyæ"), (8, "éý"),
     (10, "cx"), (11, "w"), (12, "qz")]
    [(254, "ð "), (162, " á þaðiðá "), (130, "í ðaði"), (104, " íðu"), (83, "jó"),
     (66, "eðrðsítíísþe"), (53, "járáálímórþa"), (42, "lírítövíátæðíkínólóðög"),
     (34, " úmátævæærætöförúnúrúsþú"), (27, " óbæháhújökómörérórúuðárérétíaó ónölöðú ýsþjþv"),
     (22, " ölóræsésöásáðíðönútþý"), (18, " æbúgökílömósáægílðsótökúaýrþoþá"),
     (14, "hökúlýnænítóæsíuðmðvómþiþr"), (11, "aíbífæfógígðgómíoðáiædækífítðrófógósþó"),
     (9, "díhælænúnýpórösútúánðbðeóaóbók"), (7, "dógæmúsýéðír"),
     (6, " é ýaþfáféhókýlélúlþménþtýyðáuávæmé égélíbðgðnóxúgúiýdýmýðþ "),
     (5, "bójúpísóænígðlópóvúbúlþé"), (4, "nópúídívúkúmúp"), (3, "fðgúhíláíeúdúv"),
     (2, "aódúeófíföhéjísætáxíábáfágæfæjípðjðkúeýjýtþæ"),
     (1, "aúeþfúnápápætévöákáíæ ékíóðhódóþömösúxýnþí"),
     (0, "aábábödöeíeúgágþköoírþvóyíádáeámáþéuíhíúíþðfðíóhóiújúíúóýaýg")]

def faroese : Language :=
  .ofLists (-25)
    [(2, " "), (3, "ainr"), (4, "egklstu"), (5, "dmovíð"), (6, "bfhyøú"), (7, "jpáó"), (8, "ý"),
     (9, "cæ"), (10, "w"), (11, "z"), (12, "qx")]
    [(254, "ð "), (162, " í"), (130, "iðí "), (104, "rððuør"), (83, "aðtííð"), (66, " áfø"),
     (53, "sítúátðiðsøv"), (42, "býríuðór"), (34, "fífóhøkúnórøtøvívøá íkílínísógødøðú úgúlúsýu"),
     (22, "máða"), (18, " úbæbøbúdáfágðhújúlømæmírórúsøsútóáaálærætígítðgðmólóðøgøkúkúrút"),
     (7, "ýt"), (5, "árýs"), (4, "nýtýánón"), (3, "jóím"), (2, " ódólólýmónæsáámælæsðvókótønýð"),
     (1, "lápósæírølýg"), (0, " øaødøkøkýlínúsýágásávívðeðkóeósøtúnúoýkýnýr")]

end Provenance.Text.Language
