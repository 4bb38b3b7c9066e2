import Provenance.Text.Language.Basic

namespace Provenance.Text.Language

def thai : Language :=
  .ofLists (-220)
    [(3, " า"), (4, "กนมรอเ"), (5, "คงดตยลวส\u0e31\u0e34\u0e35\u0e48\u0e49\u0e4c"),
     (6, "จชทบปพหะ\u0e37\u0e39แโไ"), (7, "ขซฟศำ\u0e38ใ\u0e47"), (8, "ณถผภษ\u0e36"), (9, "ญธฮ"),
     (10, "ฏฐ"), (11, "ฉฝฤ"), (12, "ๆ")]
    [(254, "าร"), (203, " เการ\u0e4cองา "), (162, "น มาาม\u0e35ยแล\u0e4c "),
     (130, " กนาระละลา\u0e31นาน\u0e35\u0e48"),
     (104, " แครง ท\u0e35ปรย ราอร\u0e34น\u0e37อเป\u0e48อ"),
     (83, " ค ม อก ด\u0e49ต\u0e34นเม\u0e35ม\u0e48ร\u0e31วาอาะเ\u0e31ง\u0e31\u0e49าก" ++
         "\u0e37\u0e48เว\u0e47น\u0e48ง\u0e48า\u0e49ง"),
     (66, " โกรของคงเนอน\u0e35ป\u0e47ม วลอนาต\u0e34ด\u0e35 เกเซเมเลในไม\u0e48น\u0e49อ" ++
         "\u0e49า\u0e4cเ"),
     (53, " ต ป ส ไก\u0e31ควงกด ตรต\u0e31ต\u0e48นคนดนตภาย\u0e4cร ร\u0e34ร\u0e37วยว\u0e31" ++
         "สาส\u0e34หนหร\u0e31บางาเ\u0e34ก\u0e34ตเทเรได\u0e48ว\u0e49 "),
     (42, " หก\u0e34กเคำงหชาต\u0e4cทยน\u0e34ม\u0e37ยกรมร\u0e35ล\u0e34ล\u0e35ล\u0e4c" ++
         "ว\u0e34ษาหลหาอ อกอมอยอสอ\u0e34ายาลาษ\u0e34บเจเบให\u0e48 \u0e49ว\u0e4cแ"),
     (34, " จ ด ท น บ วงอจาช\u0e35ซาด\u0e35ต ตาต\u0e49ทศท\u0e31นทนสบ บรบ\u0e31ป\u0e35" ++
         "ผ\u0e39ฟลมอมเยนยารเรแลกว ส สอส\u0e31หมห\u0e49อละไ\u0e31กาดาส\u0e34ล\u0e34ส" ++
         "\u0e39\u0e49เขเคเชเนเพเหแอโลใชไทไฟ\u0e48ส"),
     (27, " ช ซ ฟ ล ใกคกลก\u0e4cข\u0e49คนค\u0e4cงปงพงสจะช\u0e37ช\u0e49ซ\u0e35ด\u0e31ดาตอ" ++
         "ถาทาน\u0e48บาบเผลพรพ\u0e37ยงยสรรรสร\u0e38ล ล\u0e31วรว\u0e48สตส\u0e35อออ\u0e31ะอ" ++
         "\u0e31ต\u0e31ว\u0e31สาคาชาพาวำเ\u0e34 \u0e34ม\u0e35ก\u0e35น\u0e35\u0e49\u0e36\u0e48" ++
         "\u0e38ณ\u0e39\u0e48เตเสเอแมโกโด\u0e49น\u0e49ใ\u0e4cก"),
     (22, " ข ผ พกตกอคมค\u0e38งทงแจ\u0e31ช\u0e48ซ\u0e34ด\u0e34นกนยนหน\u0e31น\u0e36นใ" ++
         "น\u0e49บลบอปาผ\u0e48พ\u0e31พ\u0e34มขมคมนย\u0e39ยเรทร\u0e39ลลลวล\u0e49วนวเศาสงสมสร" ++
         "ส\u0e4cอบอ\u0e35อ\u0e37อเะกะน\u0e31ด\u0e31\u0e48าทาศาหาะาแาโาไำ \u0e34ร\u0e34ว" ++
         "\u0e35ส\u0e35เ\u0e38กเดแกโรโอ\u0e49ำ\u0e4cท"),
     (18, " ภ รกมก\u0e35ก\u0e49ขนคอคาค\u0e37ค\u0e48งขงจงชงมงโฏ\u0e34ดขดยดอดได\u0e4cทรนจนพ" ++
         "นภบ\u0e34บ\u0e39ปฏปลป\u0e34พลมปมพมหม\u0e34ม\u0e39มแมโยคยรรณรอร\u0e49ลผลมลเวงวมวอศ " ++
         "ศไสเส\u0e48ะคะบะมะย\u0e31ลาจาอ\u0e34ท\u0e34ศ\u0e34เ\u0e35ช\u0e35ว\u0e37ช\u0e39 " ++
         "\u0e39น\u0e39ล\u0e39เแบแยโคโนโปโมใด\u0e48ม\u0e48เ\u0e49เ\u0e4cด\u0e4cต\u0e4cป"),
     (14, " ย ฮกวกำจนจ\u0e35ชนช\u0e31ช\u0e34ซนซอฐาดเตวต\u0e35ถ\u0e49ทอธ\u0e34นซนมนะ" ++
         "น\u0e38นโบ\u0e35ป ปอฟรฟ\u0e31มบมสม\u0e31ยอย\u0e38ยแรงรฐรตรถรนรปรวลอล\u0e39ล\u0e48" ++
         "ว\u0e35วโว\u0e4cศสสกสวห\u0e4cอผอฟฮาะ ะดะวะแ\u0e31ม\u0e31ยาซ\u0e34โ\u0e35อ\u0e35แ" ++
         "\u0e35โ\u0e38ด\u0e39ก\u0e39รแตแนแปแวโตโบ\u0e48ย\u0e48ใ\u0e49ไ\u0e4cม\u0e4cส\u0e4cไ"),
     (11, "กดกทข ขาข\u0e35ข\u0e36ค\u0e34งนงางใจบจำจ\u0e34จ\u0e38จ\u0e49ชมญาณ\u0e4cดตดนดร" ++
         "ดำด\u0e39ดแตกตะถเทธทพทหท\u0e34ธรนธนนนปนแบคบดบบบ\u0e48ป\u0e49ผ\u0e34พมพอพ\u0e4cมจมท" ++
         "มมมวยปย\u0e49รภรยลขลตลทลนลรศ\u0e31ศ\u0e39สถสนส\u0e37ส\u0e38สโหวห\u0e48อดอตอปอไะสาณ" ++
         "าบำแ\u0e34ง\u0e34ช\u0e34ญ\u0e35ป\u0e35พ\u0e35ร\u0e36\u0e49\u0e37น\u0e38ง\u0e38ผเภเย" ++
         "แสแหโซ\u0e48ข\u0e48ป\u0e48แ\u0e49ค\u0e49ร\u0e4cจ\u0e4cช\u0e4cล\u0e4cใ"),
     (9, "กกกนกษกสกโงตชเณาดมตนต\u0e38ต\u0e39ตเท ทนนลนวนไป\u0e31ปเพามตมรมใลงลดลบห\u0e47อค" ++
         "อวำถำห\u0e38ตเฟไข\u0e48ค\u0e48จ\u0e49ต\u0e4cน\u0e4cว\u0e4cโ"),
     (7, "กขก\u0e39กแก\u0e48ง\u0e34จอชกชตซ\u0e31ซเซโญขณะดทดวท\u0e38ธนนขบนปกพ ฟ\u0e34" ++
         "ฟ\u0e38ยมยวย\u0e48รกรโร\u0e47ล\u0e37วกวแสทสำส\u0e39อทอ\u0e39ะตะระหะโาปาใ\u0e34แ" ++
         "\u0e34\u0e48\u0e37\u0e49\u0e39ง\u0e39โเงเฮแชไบไปไว\u0e48ก\u0e4cซ\u0e4cฟ\u0e4cอ"),
     (6, " ศกซกใกไคกคณค\u0e31ค\u0e39งงงฝจตจรซ ซ\u0e39ซ\u0e4cญญญ\u0e48ณ\u0e34ดพดใตยตหทำนศ" ++
         "น\u0e37บภบวบไฝ\u0e31พทพยพ\u0e35ฟ ฟตฟเมณยหรครธรพรลรหร\u0e48ฤดลคลแลโวไว\u0e49ศจสดสสหญ" ++
         "หยห\u0e31อภอ\u0e38ะชะพ\u0e31จ\u0e31ญำต\u0e35ห\u0e39มแคแรโวใตไหๆ \u0e48ถ\u0e48ท" ++
         "\u0e48บ\u0e48ร\u0e48ไ\u0e49จ\u0e49ส\u0e49ห\u0e4cร\u0e4cห"),
     (5, " ถ ฤขตข\u0e31คโงภงวจจจสจหฉบชยชหซลซ\u0e36ณ ณกณผณยณแตบตสตำถ\u0e36ถ\u0e39ทะ" ++
         "ธ\u0e38นฉนำบตบทบปบหบโบใปวป\u0e4cพบพศฟอภทภรภอมกมศมไยชยธรขรฟรศวจวณวตศ\u0e36ศเษยสคสผหต" ++
         "อชอำ\u0e31พาถาผำงำนำบำมำรำสำไ\u0e34\u0e4c\u0e35ผ\u0e36ก\u0e36ง\u0e38ญ\u0e38บ\u0e38ร" ++
         "\u0e38ษ\u0e38\u0e4c\u0e39ปเผโฮใจไน\u0e47จ\u0e47อ\u0e48พ\u0e48ล\u0e49ช\u0e49ป\u0e49ม" ++
         "\u0e49แ\u0e4cถ"),
     (4, "กะก\u0e38คตคลค\u0e35คเงไจ\u0e39ช ซมณเตแนบน\u0e39น\u0e4cปนปโพกฟซภ\u0e39ยตยล" ++
         "ย\u0e34ย\u0e35รดลซสหอะอแฮ\u0e34ะใ\u0e31ฐาฮำค\u0e34ย\u0e35ท\u0e35ฟ\u0e38น\u0e38ม" ++
         "\u0e38ย\u0e38โ\u0e39ซ\u0e39บ\u0e39อโทไซไอ\u0e48ำ"),
     (3, " ธกจกบกฤขขค คยงๆชอซ\u0e38ซแณตดจดดดสตมต\u0e47ทดทลนชนฮบกบ\u0e38ปตป\u0e39ฟา" ++
         "ฟ\u0e39มลมะยใลฟลสล\u0e38วดษรสซสลสแสไอโอ\u0e47อ\u0e48ฮลฮอฮเะฟาฟ\u0e34ป\u0e34ฟ\u0e34อ" ++
         "\u0e35ซ\u0e38ซ\u0e38เ\u0e39ช\u0e39ด\u0e39ต\u0e39ไเศแซแดแทแพแฟโยไต\u0e47ก\u0e48ต" ++
         "\u0e4cค\u0e4cบ\u0e4cฮ"),
     (2, "กงกชกปก\u0e47คซคปคสคะงซงยงรงศจ ชลช\u0e39ช\u0e4cซซซตซปซรญ ณจณรณอดกดลด\u0e37ดโดๆ" ++
         "ตซตลตโทบทมท\u0e39ทเท\u0e4cธ\u0e31ธานฟบมบยปดฝรพนพ\u0e39ฟกฟสฟโมงมชมซมดม\u0e47ยด" ++
         "ย\u0e31ยโรจรบฤตฤษลยลไวบววสบอจอหอใฮตฮ\u0e31ฮ\u0e35ฮ\u0e38ฮ\u0e48ะซะถะล\u0e31ค\u0e31ช" ++
         "\u0e31ป\u0e31ฟาธำล\u0e34ค\u0e34จ\u0e34ซ\u0e35ด\u0e35ต\u0e35บ\u0e35ล\u0e38 \u0e38ล" ++
         "\u0e38ส\u0e39ค\u0e39ว\u0e39สเฉเธโพโหไคไรไลไฮ\u0e47ม\u0e48ผ\u0e48ภ\u0e48โ\u0e4cย"),
     (1, " ฉ ฝขณคทคแงถจลจฮจเจใจ\u0e4cฉงฉพฉ\u0e35ช\u0e38ชโช\u0e47ซทซวซสญชญตญพฐมฐอณสดง" ++
         "ด\u0e38ถ\u0e31ถใทตท\u0e47ธมธอนรนๆบจบผบพบแปจปญปทปสป\u0e38พฤพแฟบฟ\u0e35ฟ\u0e4cมถ" ++
         "ม\u0e38ยซยฟรชรซรใลจลปลฮวซวสศ\u0e38ษณสภหะอซอถฮจฮบฮวฮโฮ\u0e49ะจะท\u0e31ทาขาฐำกำทำใ" ++
         "\u0e34ภ\u0e34ไ\u0e34\u0e49\u0e35ใ\u0e38พ\u0e38แ\u0e38\u0e48\u0e38\u0e49\u0e39จ" ++
         "\u0e39แแธแผแฮโจโชไจ\u0e47บ\u0e47ส\u0e47ไ\u0e48ด\u0e49ถ\u0e49ท\u0e4cผ"),
     (0, " ญกพกฟก\u0e36ขมขรคคคจคชคหงะจคชคชทชบชปชรชวชสชะซกซคซงซดซยดชดบด\u0e47ตจตชตดตตตปตพ" ++
         "ตศตใตไถอทคทงทททวทโทไธ นถน\u0e47บงบชบสบ\u0e4cปชปปปยปะปแพตพสพโฟดมฟมภมยมษม\u0e49ยทยบยย" ++
         "ยะรษรไลชลพลใล\u0e47วทวปวฟวหวะว\u0e38ศนศรษ ษกษมสฟสะหงหปห\u0e34ห\u0e35อพอ\u0e36ฮ ะงะป" ++
         "\u0e34พ\u0e34ห\u0e34ใ\u0e35ข\u0e35ค\u0e35จ\u0e35ม\u0e35ศ\u0e35ไ\u0e36น\u0e37ย" ++
         "\u0e38ค\u0e39ท\u0e39พ\u0e39ยโสไกไช\u0e47ง\u0e47ต\u0e49โ\u0e4cข\u0e4cพ")]

end Provenance.Text.Language
