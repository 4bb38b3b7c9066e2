import Provenance.Text.Language.Basic

namespace Provenance.Text.Language

def russian : Language :=
  .ofLists (-220)
    [(2, " "), (3, "аеио"), (4, "лнрст"), (5, "вдйкмпу"), (6, "бгжзчыья"), (7, "фхцшю"),
     (8, "щэё"), (10, "ъ")]
    [(203, "а и "), (162, " пе "), (130, " в сенй о растя "), (104, " д и нанернаноовроскт "),
     (83, " к м оваийкакилиниолпоретоь "), (66, " раратв вогодаиниткольненыодороспртате"),
     (53, " б талведеелемесетилиялалеломамен огонотрититры "),
     (42, " а г фамасдизаисмимонтомсетьу че"), (34, " з у ч эадакаядоейиек л м ннобперуси"),
     (27, " лавазайвыгад едезекикнднсоепар слсоссх циый"),
     (22, " е цапбебобыврдуевжджежиивизииимйсожойокпис сасятвтнунусхо"),
     (18, " ж ябаблбрвивсгигржнз зоиричкркткулулямяпурсртрысптстуурцечишиьнэт"),
     (14, "абаебувнзниоклнгнкозопошрнсьудупутфафишещеыеымыхьзю ё "),
     (11, " хагажауацачвлг гегудлдндрдыегзмиаихмммунуньсуугужулцачащаылют"),
     (9, " юахашбибнджежещзвибигйлквкелллюмнмыочргсвтыубумучфефучньсябят"),
     (7, " шащаюдсзиидицлжмбрвркряткуаущуюхащищёьюющ"),
     (6, "б втебздзыиюйтйшксняоирдфршоывыкысьяён"),
     (5, "аидвеаеоечжажбзуипифйккцмпоормсыузуйчтъеыбытькьтэкязямянёт"),
     (4, "бъеежузезлйнкжлннцофохоцощп пнппррршснсётяукухфохишашлшньеьшёр"),
     (3, "афбхвввквувхгвглдшепешзрзсйолклсмсояоёрьсбсшуеуэхецвшуыныпьдэлэнюдюжюнюрючяе"),
     (2, " щ ёаобкбсбщвмвёгддмдцдъдьдёецеюеёжёзгзжижищйдйркклчлшмкмлмьнвнфнчнюоаоуоюплпь" ++
         "рбрлрфсмсрсхсътбтдтмтчтёувфлффцкцуч члчьчёшкщущьъёыиышьфьёэпэрэсэфюгюзялячящёлём"),
     (1, " йаабввьгсддеиеуехеязбиуишйвйеймйчкмлглтнзнлржрхтлтттхуиуоушхучочушсштырьмьоэ " ++
         "эйюбюкюсядякяпяряцяю"),
     (0, "аэбббчбьвгвдвчвшвягбгггкгмгнгыдгдздкдтдхдюдяефеэж жожпжсзззкзяйайбйгйзйийпйфйц" ++
         "йюйякгкдкзкпкфкхкшкыкькюлблдлмлплфлылёмвмфмхмчмшнбнжнмнпнрнхншнэнёоэпсптпхпыпюпярз" ++
         "рцрэрюсдсцсчтюуууфуцуяф фтхлхмхнхрхсхтц чжчкш швшмшпшрыгыдызычьбьвьгьиьпьчюаюйюлюм" ++
         "явягясяя")]

def ukrainian : Language :=
  .ofLists (-220)
    [(2, " "), (3, "ао"), (4, "веикнрсті"), (5, "дйлмпуь"), (6, "бгзчя"), (7, "жфхцшюєї"),
     (8, "щ"), (10, "ґ")]
    [(254, "а "), (130, " пи нао і "), (104, " в д н санрост"), (83, " к мерй канинорасьтаькя "),
     (66, " з р т ів вавіе енкильм ніовомриу "), (53, " барасатвигозаийинкомаогонортетитоь ів"),
     (42, " о у чавалводадоимитламінеоспопррерітрініс"),
     (34, " а л ц яайамдииск ліннодоколсотутьх чаід"),
     (27, " фгадеднивйскрлимимонтняобпепісит ій"),
     (22, " г єабадакбабобувевсд елетз ихкілолямен нднспар сесяунцечею якє ілітї "),
     (18, " й щаїб бевндіезейекемесжиикклкуленьозопс сітвтіувулцічичншищоьнір"),
     (14, " ж їагазачбрбігржеичйол лумункншожотпиртрусвтнукурфашеятізіоішіяїн"),
     (11, " еахацаєвдгіеджажнзнзіилйнктлюрсскслсуцячіьоьсютіміч"),
     (9, " х шашблвуджзмйлнгочоюп снспумусутхохішоюдіаікії"),
     (7, "апвребжузуиїмпнуойоїршсаубфрфушієвігїв"), (6, " юажаудлдсдуежж збибицймйтрврнряудупяд"),
     (5, " ґвчдвдкдревечзтзьидищкщмбнцохоцошржсхугуюфіхацич шлшнщещуьвьйьмьтябєдєкєюіюіє" ++
         "їжїхїї"), (4, "г дьеаегипкексоаргрфтсуєфоцьштібіп"),
     (3, "афбивжвлгегиглепжлзвздзоигйвйдквлкмноєрдсштктлтчуаузуйучфехтччшкьшюряняхяєіжґа"),
     (2, "бнбсгвгудцдяеоецзезизпизиришйбйжкцкшмснфпурбркрлрмрьрютбтюфлцуцючкщащіьфьщювюю" ++
         "ячіщїйґр"), (1, "аааоаюбвбхвввтдхеяеіжджізрижкккмллнвнзрхуехвш шаьяяцєтїт"),
     (0, "аеаябчвквягбгдгкгмгнгсгтдддздмдпдюеуефехешеюеїжожпжтзгзззлзсзяифйгйзйкйрйцйшйю" ++
         "йяйєйїкдкпкфкхкюлблглдлжлмлплтлємвмхмчмшнбнлнмнчнюоеоооуофощояоіплпнпппсптпхпчпюрз" ++
         "рпрррцрщсмсрсстгтттхтяужуоуууфухуцушуїф фтхехихлхмхнхрхсхуцачочушвшмшпшршущиьбьгьд" ++
         "ьзьцьюьєьїюаюйюкюмюнюсявязялямяояпярясєеєлємєнєріуіфіхіцїдїлїрїсґ ")]

def belarusian : Language :=
  .ofLists (-220)
    [(2, " а"), (4, "екнрстыі"), (5, "бвдлмопуя"), (6, "гзйцчьэў"), (7, "жхш"), (8, "фюё")]
    [(254, "а "), (203, "раі "), (162, "каы "), (130, " п санарната"),
     (104, " а к м іадаламвадае ласкя "), (83, " б д наскіманыпарыстінў "),
     (66, " в г равайаўльлімінеь "), (53, " з табаеакаягадзенерк н ніпру ча"),
     (42, " у ч яагатацвегозей м нннсодс сат тртыць"),
     (34, " л ўапбабевізалендо орр росітуусцаік"),
     (27, " фазвыднелжызіклкоментсесятотэхоымыяэняніція"),
     (22, " ж х шахбувод дыесломомуняоноўртрурэсвурх цццічыьнэтілімісўс"),
     (18, "бобрбывяг гэдждоекз знйскркул лянгноовоголоспеунфацычншыыкыныўэр"),
     (14, " эблбівугргіейеметйнмяспсутвулумхацечэшчывылытыцэ эйэлёнітўдўн"),
     (11, " егедэеджайллулюмнмынкнунцозотпургрсслсьуауцуюшаысэкюцямярятяц"),
     (9, " ёб вёгудкдуйшктмбньожойочп пірвсытктнубупучштягякялё івіріхічіўўк"),
     (7, " цаёаіешжнзмйчлыншпярдршсцудуйутухфуфіцтцэшлыбыдыйыхэсябясяхяшёліг"),
     (6, "ааачдлеўкемпмэобрнувузфрхуцкычьсэмядяўіб"),
     (5, "ажафаюгвеізвйткснёокомпорксэтлшкькьтьёэаю ютяпёвідійўв"),
     (4, " юашбвбэвэдвдрдсзлзуйбйцкнкцнэпырбсёукфехтцячушмырышьмэўяеяйёсізўрўт"),
     (3, "аугчдшжузсзяквкэмлмсрмрфрчсххіцоч ыгыіьфьяэгэдюдючячёйіп"),
     (2, " обсв глегезецж жожэзбйкйрлглклэнбнлоппэрлснсотсугуэуяуіхечош ызыпыёэвюбявяяіф" ++
         "іі"),
     (1, "гнддевежеоеуеяжвжсзозрзыйдймйпкмкшлмлтнвнмнрнхпнпхрзсбтхужушф хвц цушвшгшсшушэ" ++
         "ьбьдьюэфэчэяюкюніеіёўэ"),
     (0, " йаоаэбхбчгбгдгкгмгсгыдгдмдпдхеаебееепечеэеёжбжджпзгзкйвйгйейзйяйікгкдкзкпкфкх" ++
         "кыкюкёлблдлжлплсмвмкмхмчнзнпнюоаоеохоцошоэояплпспцрррхрцсмсртбтмтцтчуоуууўфтфыхмхн" ++
         "хрхсцбцвшошпшршіыеыжыуыфьвьгьеьпьіэбэзэоэпэцэіюаюрюсязёрётіжіоіуішўаўгўзўлўп")]

def bulgarian : Language :=
  .ofLists (-220)
    [(2, " "), (3, "аеи"), (4, "норст"), (5, "вдклмпу"), (6, "бгзйъя"), (7, "жфхцч"), (8, "шщ"),
     (9, "ю")]
    [(254, "а "), (203, "и "), (104, " се нао "), (83, " и н пра"),
     (66, " в данатеннирескстт тате"), (53, " к мваинкакилиманото"), (42, " еардаиткомен прри"),
     (34, " б г о р талдиеретияолотпоросесития "), (27, " аадвевоеделемесзаиллаовонорострят"),
     (22, " завазайамасв вивргодеивисл ленентър"),
     (18, "аквъгагрдоезизикиммимонсодомпар с сатвът"),
     (14, " л у ф х чбебигид ейекжез иричйск лондобожойруръсъу ци"),
     (11, " цбобрдужизииоогрсртслсотнтуурфичеъл"),
     (9, " жаббабъевиаиеийй йнйткулулянгоипепървтъугунусхочиъщ"),
     (7, "агапвсдждндъешждигклкълнм муопофписрфацещаще"),
     (6, "ацдребйлнуняокрнсвснуаулумхацачнъзъс"),
     (5, "бувнгудвзвибидицктлглклсмннкннрдрктктсуеутшаъд"),
     (4, " ш ябвг глдсежепещжазезлзпквкекркслъмбржршспсутяукфрхичашешишкъгънябявян"),
     (3, " ъ юаеауафахблбнбщвягнгъегеязбзгздзмзтиплзлтлшлюмвмпоаозоцочплптргрмрятбттубуи" ++
         "упухучфух хрчвчкчочршвшнщоъвъоъпядякям"),
     (2, " й щажаоачашащаяб вдвтгвгедмеаеиецечжнжузкзрзузчифихишйейкйрлжмсмянлнцоеошояп " ++
         "пурфсбтлудужузушфефоц щиъкъчюжюч"),
     (1, "аааибсвквлеееожъзхииищйвйокцлблдлфмънбнвнфоуощпюрбрлсмсяувфлфтхехнхуцвцъч щнщу" ++
         "ъбъжюрютяп"),
     (0, "аюбйбявгвмвувчгбгдгкгмгсгтгядгдддздлдпдхдяеуефехеюж жкжожпзнзозсзъижиуиъйайбйг" ++
         "йдйзйиймйпкдкккмкнкпкфкхкялвлмлплхмфмхмчнжнзнмнрнхнчншнщохпйпнпспчпярзрхрцсгсхтдтм" ++
         "тхтцуйуоуууфуцуяф хлхмхсхтцкцоцучуш шошрштщ ъеъйъмю юаягяляояряс")]

def macedonian : Language :=
  .ofLists (-220)
    [(2, " "), (3, "аеио"), (4, "вкнрст"), (5, "гдлмпуј"), (6, "бз"), (7, "жцчш"), (8, "фхќ"),
     (9, "ѓњ"), (10, "џ"), (11, "ѕљ")]
    [(254, "а и "), (162, "е о "), (130, " сна"), (104, " д и натра"),
     (83, " в пвокониотрескт тате"), (66, " г кдаенкакиместтоја"),
     (53, " е м оанардееминнооврисе"), (42, " ралвавеедекетитлиман олпо"),
     (34, " б тадвивргодоелерисијл орпрти"), (27, " завакбигрднесзаилламоненсодонојросисотр"),
     (22, " а уазасбрд зиивикимлеобопу ур"), (18, " јбабогидидржиизкулом нтогоспер твувциј "),
     (14, " ж ф цамајебеширичк миндомпарсрусутнтуунчкќе"),
     (11, " л ќааабашгуевезејиолуоирдрнсаугчоштѓајејсќа"),
     (9, " х чачаќбевнгаеаегзбздзеиекемунгожпјулумцаш ше"),
     (7, "аоглдуечишквлснкоеокркс слсмснтс"),
     (6, " шажапг гнжажезлигиплклтозоцпсрвршспсрусухушфечншишк"),
     (5, "агањв зоибидицкрлнмннуоѓпирфубужфифрфуцечешашн"), (4, "ацеиецмбмсргсвупфахочишујуња"),
     (3, " ѓ ѕ љ њ џафаѓб бдбнбувсвтвувчгвдсеќжнжужјзмзнзукскцлшлјмјплпшржрзрмтктлуаузут" ++
         "учуќх хахрц црѕвјгјмјцљуњиџе"), (2, "аиауахгеепктнфнцоаочртудукхицучајтџи"),
     (1, "аеаџдмифкмлблдмвншофоџпууефохеч јвјијнјољањеџа"),
     (0, "бвблвгвдвлвјгбгдгкгмгсдбдвдлеоеуефехењжоз згзрзјижиииуихињиќкдклкпкфкшкјлвлглж" ++
         "лзлмлпмпмчмшнбнвнзнлнмнпнхнчоуохошоњп пкптпчрбрлрпрхрцрчрјсјтгтптцтјуууцујф фсхсхт" ++
         "цвцочвчучјшвшлшмшошпшрјдјзјкјлјпјрјшњ њоџ ")]

def serbian : Language :=
  .ofLists (-220)
    [(2, " "), (3, "аеио"), (4, "кнрсту"), (5, "бвдлмпј"), (6, "гз"), (7, "жцчшћ"), (8, "фхђљњ"),
     (10, "џ")]
    [(254, "а "), (203, "е "), (162, "и "), (104, " п со у "), (83, " днара"),
     (66, " и н јанкоскстје"), (53, " к м удакакининоретате"), (42, " б оарвавеинијмамепори"),
     (34, " вавадатбиедемитлалимонеовоморпрсеја"),
     (27, " г ракајвоврдедиенеретимисм обогодонојтито"), (22, " залбрвигрдндозаикиллон нсосрору"),
     (18, " а тазамекелзиивиок куотр сатртуунур"),
     (14, "бабегагод дрдуесизичкеминдолпапепирвсвсициј јијс"),
     (11, " ж л ф цађвнгиезжежинусрсут твугчкјућа"),
     (9, " чг евеоешејиришићлемунтожокрстсулупчишеђање"),
     (7, " е х шасачбодсебепећзоиљлумбнгозрдрнршумутцањаћу"),
     (6, " љ њабањаћегеђзезлмнопслсмткудусчачеђуљаљућ "),
     (5, "аоапацбув гуечигињквкрлтнкошоћп рбркс тнужукфифрх шашишкштћећи"),
     (4, "агажбнвугджаз збзмибипицлночођољптснспубухушшншћђејвјојтљкљс"),
     (3, " џаувљгвгеглељзуихлклспспуртрфсоуаузучујфафефухицечнчујнљењу"),
     (2, " ђ ћаиафахашб бдбјвкдбеижнжјздидклкскткцл лфмлмљнцоаплпнржрзрмрцтлуоућхахохрху" ++
         "црцучош шуђиђојмљнњиџеџи"), (1, "блвсдњеаецењлдмснфргувфохеџа"),
     (0, "аљбввгвдвлвчвјгбгкгмгнгсгтгјдвдгдлдмежеуефехжбжузвзгзкзнзрзјижиуифкдкмкпкфкшкј" ++
         "лблвлглжлзлмлплшмвмпмчмшмјмћнбнвнзнлнмнпнхнчншоеоиофохоцоњпчпјрлрпрхрчрњсјтјтњуеуи" ++
         "уууфуцуљуњф хсхтц цвцкцоцсчвшвшлшмшошпшрјбјгјдјкјлјпјрјцјчјшљињоћнџ ")]

end Provenance.Text.Language
