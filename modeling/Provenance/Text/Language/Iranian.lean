import Provenance.Text.Language.Basic

namespace Provenance.Text.Language

def kurdish : Language :=
  .ofLists (-25)
    [(2, " "), (3, "aen"), (4, "ikrî"), (5, "bdghlmostuyê"), (6, "cjpvwzû"), (7, "fxş"), (8, "qç")]
    [(83, "ê "), (66, "î "), (27, "înû "), (22, "dî"), (18, " ûrêyê"), (14, "kînêrîên"),
     (11, "bûkênîyî"), (9, "bîmêtêêrşa"), (7, " ç şlîîr"), (6, "sêtîwîêşîşşk"), (5, "hêpêsî"),
     (4, "aşvêzîîkîsîy"), (3, "dêdûişjêpîqûzêçaçeêdêmêvîcîfûeûnûqûrş şuşî"), (2, " ê îmîrûîlît"),
     (1, "aîfîgîhîlêvîçîîvûsûyştşû"),
     (0, "açaûbêcêcîeçeîeûeşfêgêgûhûiçiûjîjûkûkşlûmûnçnûnşpûqîrşsûtûtşuîuşwêxîyûyşzûç çi" ++
         "êbêwîaîbîdîeîgîhîjîmîoîpîqîwîxîzîçîûûaûbûcûdûgûkûlûmûpûtûvûîşeşgşmşnşo")]

def persian : Language :=
  .ofLists (-220)
    [(2, " "), (3, "\u0627\u0631"), (4, "\u0628\u062a\u062f\u0646\u0647\u0648"),
     (5, "\u0633\u0644\u0645\u06a9"), (6, "\u0632\u0634\u0641\u0642\u067e\u06af"),
     (7, "\u0622\u062c\u062d\u062e\u0639"), (8, "\u0635\u0637\u063a\u0686"),
     (9, "\u0626\u062b\u0630\u0638\u0698"), (11, "\u0624")]
    [(162, "\u0647 "), (130, " \u0627 \u0628\u0627\u0646\u062f \u0631 \u0646 "),
     (104, " \u06a9\u0631\u0627"), (83, " \u062f \u0648\u0627 \u0627\u0631\u062a \u0648 "),
     (66, " \u0631 \u0645\u0646\u062f"), (53, " \u062a \u0647\u062f\u0627\u0633\u062a"),
     (42, " \u0622 \u0633 \u0634 \u0646 \u067e\u0627\u0645\u0628\u0627\u0628\u0631" ++
         "\u062a\u0627\u0631\u062f\u0647\u0627"),
     (34, " \u06af\u0627\u062f\u0627\u0632\u0627\u0633\u0628\u0647\u062f\u0631" ++
         "\u0631\u0648\u0632 \u0644 \u0646\u0627\u0648\u0631"),
     (27, "\u0627\u0644\u0627\u0647\u0645 \u0645\u0627\u0648\u062f\u06a9\u0627"),
     (22, " \u062c \u0641\u0627\u0628\u0627\u0648\u0628\u0648\u0631\u0633\u0647\u0631" ++
         "\u0648\u0627\u0648\u0642\u0648\u0646\u06a9\u0646\u06af\u0631"),
     (18, " \u062d \u0639\u0627\u0641\u062a\u0647\u062f\u0647\u0633 \u0634\u062f" ++
         "\u0641\u0631\u0642\u062a\u0644\u0627\u0645\u0648\u0646\u0647\u067e\u0627\u06a9 " ++
         "\u06a9\u0647"),
     (14, " \u062e \u0632 \u0644\u0622\u0646\u0628 \u062a\u0631\u0631\u0628\u0631\u0646" ++
         "\u0631\u0647\u0633\u0631\u0641\u0627\u0641\u062a\u0645\u0647\u0646\u0648" ++
         "\u06af\u0627"),
     (11, " \u0642 \u0686\u0627\u062a\u062a\u0648\u062c\u0627\u062d\u0627\u062f\u0648" ++
         "\u0631\u0645\u0632\u0627\u0632\u0628\u0633\u0627\u0634\u0627\u0634\u062a" ++
         "\u0646\u0633\u0646\u06af\u06a9\u062a\u06a9\u0648\u06af\u0648"),
     (9, " \u0635\u0627\u0634\u062e\u0627\u062e\u0648\u0634 \u0639\u0627\u0642 " ++
         "\u0645\u0631\u0645\u0644\u0646\u0634\u0648\u0628\u0648\u0632\u0648\u0633" ++
         "\u067e\u0631\u067e\u0633\u06a9\u0631\u06a9\u0633"),
     (7, "\u062a\u0646\u062c\u0645\u062f\u0633\u0631\u0641\u0632\u0647\u0634\u0647" ++
         "\u0641\u0638\u0642\u0631\u0645\u0646\u0646\u062a"),
     (6, "\u0622\u0631\u0627\u06af\u062a\u0645\u0631\u06a9\u0633\u0647\u0633\u0648" ++
         "\u0634\u0631\u0634\u0645\u0634\u0648\u0639\u0631\u0644\u0647\u0644\u0648" ++
         "\u0646\u0628\u0647\u0633\u0647\u0645\u0647\u0646\u0648\u0644\u0648\u0647"),
     (5, " \u063a\u0628\u0644\u062a\u063a\u062c\u0646\u062e\u062a\u062f\u0634" ++
         "\u062f\u0646\u0631\u0634\u0631\u06af\u0632\u0631\u0632\u0646\u0634\u06af" ++
         "\u0635\u0641\u0637 \u0641\u0642\u0642\u0648\u0646\u062c\u0646\u0646\u0648\u0641" ++
         "\u0648\u067e\u0686 \u06a9\u0634"),
     (4, "\u0627\u0626\u0627\u062c\u0627\u0642\u0627\u06a9\u0628\u0632\u0628\u0633" ++
         "\u0628\u0637\u0628\u0639\u062a\u062e\u062a\u0635\u062b\u0627\u062c\u0632" ++
         "\u062d\u0642\u0631\u062c\u0631\u0632\u0633\u062e\u0633\u06a9\u0635\u0627" ++
         "\u0635\u0631\u0638 \u0638\u0647\u0639 \u0639\u062f\u0641\u0632\u0645\u0628" ++
         "\u0645\u062a\u0647\u0648\u0648\u062c\u0648\u0645\u06a9\u0632\u06a9\u0644\u06af " ++
         "\u06af\u0641"),
     (3, " \u0637 \u0698\u0622\u0628\u0622\u0645\u0626\u0648\u0627\u0639\u0628\u062a" ++
         "\u0628\u062e\u0628\u0634\u0628\u0646\u062a\u062d\u062a\u0644\u062c \u062c\u062f" ++
         "\u062d\u0647\u062f\u0644\u0630\u0631\u0631\u062a\u0632\u06af\u0633\u0628" ++
         "\u0633\u0645\u0633\u0646\u0635\u062f\u0637\u0641\u0637\u0644\u0639\u0645" ++
         "\u063a\u0627\u063a\u0648\u0641 \u0641\u062d\u0641\u063a\u0642\u062f\u0642\u0644" ++
         "\u0644\u0628\u0644\u0637\u0644\u063a\u0644\u0646\u0645\u062c\u0645\u0639" ++
         "\u0645\u06a9\u0646\u0631\u0646\u06a9\u0647\u062f\u0647\u0641\u0647\u0647" ++
         "\u0648\u0626\u0648\u062a\u0648\u0686\u0648\u06a9\u0648\u06af\u067e\u0646" ++
         "\u067e\u0648\u0686\u0647\u0686\u0648\u0686\u06a9\u0698\u0627\u06a9\u062f" ++
         "\u06a9\u0645\u06af\u0630\u06af\u0644"),
     (2, "\u0622\u062b\u0622\u0632\u0622\u0644\u0624\u0627\u0626\u0646\u0627\u0635" ++
         "\u0627\u0638\u0627\u067e\u0627\u0698\u062a\u0634\u062a\u0641\u062a\u06af\u062d " ++
         "\u062d\u0630\u062d\u0635\u062e \u062e\u062f\u062e\u0633\u062e\u0646\u062f\u062e" ++
         "\u062f\u06af\u0630\u0641\u0631\u0642\u0632\u0634\u0632\u0648\u0633\u0624" ++
         "\u0633\u0639\u0633\u0644\u0634\u0639\u0637\u0645\u0639\u0642\u0639\u0646" ++
         "\u063a\u0630\u063a\u0631\u0642\u0627\u0644\u062d\u0644\u0645\u0645\u0626" ++
         "\u0645\u062f\u0645\u0637\u0646\u062e\u0646\u0632\u0646\u0641\u0647\u0634" ++
         "\u0648\u062d\u0648\u0639\u0648\u0648\u067e\u0632\u0686\u0631\u0698\u0647"),
     (1, " \u062b\u0622\u0633\u0626\u0647\u0627\u062d\u0628\u0628\u0628\u062d" ++
         "\u062a\u0633\u062c\u0631\u062c\u0647\u062d\u062a\u062d\u0631\u062f\u0642" ++
         "\u0631\u0644\u0633\u0637\u0634\u0646\u0634\u06a9\u0635\u0628\u0635\u0648" ++
         "\u0639\u062a\u0641\u0648\u0642\u0647\u0644\u062a\u0644\u062f\u0644\u0633" ++
         "\u0644\u06a9\u0645\u062d\u0646\u0645\u0647\u0644\u0686\u0627"),
     (0, " \u0626\u0622\u062a\u0622\u062f\u0622\u0648\u0622\u06a9\u0626\u0627" ++
         "\u0627\u0622\u0627\u062e\u0627\u0637\u0627\u063a\u0627\u0686\u0628\u062c" ++
         "\u0628\u062f\u0628\u0645\u0628\u0686\u0628\u06a9\u0628\u06af\u062a\u0628" ++
         "\u062a\u062a\u062a\u0632\u062a\u06a9\u062c\u0628\u062c\u0633\u062c\u0644" ++
         "\u062c\u0648\u062c\u06a9\u062d\u062f\u062d\u0633\u062d\u0644\u062e\u0631" ++
         "\u062e\u0644\u062e\u0645\u062f\u062f\u062f\u0632\u062f\u06a9\u0630\u0627" ++
         "\u0631\u0626\u0631\u062e\u0631\u0635\u0631\u0698\u0632\u062a\u0632\u0633" ++
         "\u0632\u0644\u0632\u0645\u0632\u06a9\u0633\u062f\u0633\u0641\u0633\u067e" ++
         "\u0634\u0642\u0634\u0644\u0635 \u0637\u0627\u0637\u0631\u0638\u0631\u0639\u0628" ++
         "\u0639\u0644\u0639\u0647\u0639\u0648\u063a\u062a\u063a\u062f\u063a\u0646" ++
         "\u0641\u0633\u0641\u0644\u0641\u0646\u0642\u0628\u0642\u0632\u0642\u0633" ++
         "\u0642\u0641\u0642\u0646\u0644\u062c\u0644\u0631\u0644\u0632\u0644\u0634" ++
         "\u0644\u0641\u0644\u0644\u0644\u067e\u0644\u06af\u0645\u062e\u0645\u0633" ++
         "\u0645\u0634\u0645\u0642\u0645\u0645\u0645\u067e\u0645\u06af\u0646\u0635" ++
         "\u0646\u0637\u0646\u063a\u0646\u0642\u0646\u0644\u0646\u067e\u0646\u0686" ++
         "\u0647\u062c\u0647\u062e\u0647\u06a9\u0648\u0622\u0648\u062e\u0648\u0634\u067e " ++
         "\u067e\u062a\u067e\u0634\u067e\u0644\u067e\u0647\u0686\u062a\u0686\u0646\u0698 " ++
         "\u06a9\u0641\u06a9\u067e\u06af\u0628\u06af\u0632\u06af\u0645\u06af\u0646" ++
         "\u06af\u0647")]

end Provenance.Text.Language
