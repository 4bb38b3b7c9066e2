import Provenance.Text.Language.Basic

namespace Provenance.Text.Language

def latvian : Language :=
  .ofLists (-25)
    [(2, " "), (3, "ais"), (4, "eklnrtuā"), (5, "djmopv"), (6, "bcgzēīš"), (7, "ņū"), (8, "fļž"),
     (9, "hčģķ"), (12, "x")]
    [(203, "ā "), (162, "tā"), (104, "rā"), (83, "iņrīvēājīv"), (66, " škāārāsīb"),
     (53, "ešjāzīādākēt"), (42, "lālīpētīvāālāmātēlīgš "), (34, " ābājūnāsēānēcēkī ņašuūrūs"),
     (27, "dākļpārēsīzēēmērēsģiņušiūd"), (22, "būdēmāmēnīsāācē ējļuša"),
     (18, " č ē ķeļežgākštūīcīdījīnīsņšūt"), (14, " īašcīdžnēršzāābčaītķiļašešožu"),
     (11, " ģ ļ ņ ū žažbīlēlūvīāpēdēnīrķēļūņiņāņēšsšīž žižā"), (9, "aņeāeņiātēēģēļ"),
     (7, "ošāvāļūz"), (6, "gūjēmīmšmūuņčūēķīpīčķeņeņoškšāšķūk"), (5, "fīiģtšāfāiāņļ ļiļoļššcšē"),
     (4, "āzčiēzīl"), (3, "ačgēnūrūčuīmķīža"), (2, "cēdīeģičišnčpīpūuāuēuščeīzļāšvūlūnūpžī"),
     (1, "aēaķbēeķfāfēgļgšhāhēkēkīoņučāgčočīēņģuīņšņūfžo"),
     (0, "aļaūcāeūgīiķiļiūjīlžnšoāuīuļāžēvīkļeļkļlļnļrļsņjņsšdšlšmšršt")]

def lithuanian : Language :=
  .ofLists (-25)
    [(2, " "), (3, "ais"), (4, "eknortu"), (5, "dgjlmpv"), (6, "byėšųž"), (7, "cąįū"), (8, "fhzč"),
     (10, "ę"), (12, "qwx")]
    [(162, "ų "), (104, " šė "), (83, "iųą "), (66, " žčiės"), (53, "išnėtųį šašiži"),
     (42, " įdžėj"), (34, "dėjųtą"), (27, " čašešmėrėsėūr"), (22, "lėlįmąnųąžš žm"),
     (18, "būkėmųrųsąužvėėlėmėtšeštžežu"), (14, "gėkšlųpėsųtėtūūnūsūt"),
     (11, "bųičkųrąąsškšvūkžo"), (9, " ė ūaždįdųečjąjūkūląnąvūyčąjėdę įrįsįvšmšyščžaždžv"),
     (7, "ačgūnč"), (6, "dąušyšče"), (5, " ąežsūtįąrėkėnęsįmšošįž žy"),
     (4, "bėgįgųgžmęmūręrūsętštžčaėrėžįtšjšlšsšėūmųjžnžpžė"), (3, "cūiązųšuūz"), (2, "mčpūtęuččo"),
     (1, "iūjėkąlžošršržvųčuūd"), (0, "aėaūdūjįmšnšočpąpųrčrįsčsįuėyžėgįlįpšgšnšršųūgžs")]

def czech : Language :=
  .ofLists (-25)
    [(2, " "), (3, "a"), (4, "eilnorst"), (5, "bcdkmpuví"), (6, "hjyzáéčěřšž"), (7, "gýů"),
     (8, "fú"), (9, "w"), (10, "ň"), (11, "xóť"), (12, "q")]
    [(254, "níí "), (162, "é ý "), (130, "á št"), (104, " čkékýpřře"), (83, "měněrářiříů ži"),
     (66, " žnéužvěčaě "), (53, " úcíkánáváánávéhícže"), (42, " ř šjíožsítřvíálátčečiětšíž "),
     (34, "ačdůkůnýrůtátěvéásázíhčněněsše"), (27, "aždádíhámáočtétůušvýzáádárímísítěkělši"),
     (22, "děečlálšmínšpůtšučvšíkýcýmčtůvží"), (18, "ařbábědýežišméořpáréršyšzíářémílínívčíůsžd"),
     (14, "dédšdžižjšmůácénídúdúčěmšl"), (11, "dřešjálínčpěrývřábákápúpčkědřaškššůlůžžbžn"),
     (9, "ašbýlétýésýtěcěhějěžň ůmžá"), (7, "bíiálůnůrčvůyžézíjírízútňuš špť "),
     (6, "mýmčélévódúzč člčář šnšoůzžs"),
     (5, " óbšeífíičmšríuťzúířúsúřýsýšěňěřěšěťřkšaťoůbůjůňžkžl"), (4, "kšuáámža"),
     (3, "aňgšpítízšášíšónúnýdžš"), (2, " ácůeáeňkólžnžošsásúáhédčočuňařořušsšvšť"),
     (1, " ňbřcógáhéhřhšjůlýrózéágájéréuéšíbórósčcěršužň"),
     (0, "aúbébčeřhíhžiúkílúlčmžpčpšsýtčvčyčyřzřáčéaétéčípížúrýkýnýrčsčvčéčšěvězřsšcšmšá" ++
         "ůtžpžtžu")]

def slovak : Language :=
  .ofLists (-25)
    [(2, " "), (3, "ao"), (4, "einrstv"), (5, "bcdklmpu"), (6, "hjyzáéíčž"), (7, "gúýľšť"),
     (8, "fô"), (9, "wäď"), (10, "xóĺň"), (11, "ŕ"), (12, "q")]
    [(130, "é ý "), (83, " čnéá í či"), (66, "kýráéhčaštži"), (53, " šeľkénáuž"),
     (42, " ú žaťiťnýožácávú "), (34, " ľkánísúsťľať žeží"),
     (27, "júláočrérítétývéánárásátívýcčečíďaľ šeši"), (22, " ďačaždáešnčsítázáícínúbčnžd"),
     (18, "máoľvávävšémítľoľušížn"), (14, "dôdýežiškômämôpápärčtíušvýádálázätäčäťúdútúzčšľkťažk"),
     (11, "díhálšučyšyťíkímísónôlôrôvúčýmľsňažs"), (9, " ťcúdľdžeďeňjčlínúáľézôžúsň "),
     (7, " ábáeťiíiókúlčnšpítúškšož žb"), (6, "ašečiámčpôôsčočt"),
     (5, "dčdĺdňdšeífíhôhýižkĺmúmýmŕoštôtčtĺvďvŕvžábájä ídôjôňúlúpúvýkýšč člď ďžĺbĺpĺžľú" ++
         "ŕbŕtšlšnšľšť"), (4, "bčičpýróámápášópórýtža"), (3, "dúkómérýuázízšénílírúcúnša"),
     (2, "dógčhčhľlómíršyžérízúťýžčuľbňoš špšsšv"),
     (1, " í ňbľcódéeágágóhéjákčlúlýlžnónžpčrťsýtóvčáhážéléuíbíjípíľógózúžýbýršhšmťržtžu" ++
         "žš"),
     (0, " éaíaďaľbécícťhíiúkíkškžlémšpérôrúsásôuľvívôvúyčzézčákáčéaécédétévéčíaíoížó úk" ++
         "úmúoúrýnývčcčjčkľnľtšužpžážč")]

def polish : Language :=
  .ofLists (-25)
    [(2, " "), (3, "ai"), (4, "eknorstwz"), (5, "cdjlmpuy"), (6, "bgóęł"), (7, "hąćńśż"), (8, "f"),
     (9, "vź"), (11, "x"), (12, "q")]
    [(162, "ć ł "), (130, "ałięą ę "), (104, "ośróówło"), (83, "órłańsży"), (66, "ańtózęń śc"),
     (53, " ś żeśeżjąołońożużść"), (42, "aćeńsłyłędłuślżn"), (34, "dłkłtęącęcłyńcż "),
     (27, " łażpóyćódólółądękłąśw"), (22, "ląmóząętłóśnża"),
     (18, "będżiąjęzłóbóżępęzęśłnśrżdżeżo"), (14, "błcądźgłiłkólęnónąpłsósąyżógątłkź żs"),
     (11, " źdąińtłęłłcźrżl"), (9, "dógóuńwę"), (7, "aźełićnęułwówąyśójóźąsłeźn"),
     (6, " ó ćbóbącóeógęjśkąkękżlómęmłwłzóósąććwęćłćźńżiżó"), (5, "rę"), (4, "gą"),
     (3, "iżązłgżu"), (2, "ećyńłdłm"), (1, "aśiójótąuźąpążęgężłbżążę"),
     (0, "dęuśópłpłtłwś źażkżmżp")]

def slovene : Language :=
  .ofLists (-25)
    [(2, " "), (3, "aeino"), (4, "jklrstv"), (5, "dmpuč"), (6, "bgzšž"), (7, "c"), (8, "fh"),
     (12, "qwxy")]
    [(203, "či"), (162, "šč"), (130, " č"), (104, "čače"), (83, " š žišč škži"), (66, "ičoč"),
     (53, "ačečže"), (42, "ašešežčn"), (34, "jšožučšt"), (27, "nšužšašež žažn"),
     (18, "ošršržčjčlču"), (14, "nčrčšišlšn"), (11, "čk"), (9, "džžj"), (7, "ažmčšo"),
     (6, "bčlšvčžb"), (5, "dšmštš"), (4, "ižvš"), (3, "bšuš"), (2, "gšš špšušv"), (1, "pščočr"),
     (0, "kšlžpččvšmšrždžpžu")]

def croatian : Language :=
  .ofLists (-25)
    [(2, " "), (3, "aeio"), (4, "jknrstu"), (5, "dlmpv"), (6, "bgzćč"), (7, "chšž"), (8, "fyđ"),
     (9, "w"), (10, "q"), (11, "x")]
    [(66, "či"), (53, " č"), (42, " žećičišćaćičeštži"), (34, " šačićućučć ćečkše"), (27, "ečeš"),
     (22, " ćađoćođužđažaže"), (18, "aćočrščađešašk"), (14, "eđošćučlšišn"), (11, "ažožžn"),
     (9, "ržuščnčođiđu"), (7, "čjžu"), (6, "č ču"), (5, "ašćnš šlšušć"), (4, " đdžpćđožj"),
     (2, "iž"), (1, "jšlžmčnšrčšošpšv"), (0, "bčiđjčlšnččvšmšr")]

end Provenance.Text.Language
