import Provenance.Text.Language.Basic

namespace Provenance.Text.Language

def greek : Language :=
  .ofLists (-220)
    [(2, " "), (3, "α"), (4, "εικνορστ"), (5, "άίηλμπςυό"), (6, "έήγδθχωύ"), (7, "βζφώ"), (9, "ξ"),
     (10, "ΐψϊ")]
    [(254, "α ς "), (203, " τ"), (162, "ι "), (130, " πν ου"), (104, " α ε καιη ο ποτατο"),
     (83, " μ σε ειικκανασττη"), (66, "ανείιαμαρατε"), (53, " δ ν χά ή ατερμεοιριροσετιυ "),
     (42, " γ οίαηνιοισκάούπρσηό "), (34, " ηίναλαραςδιενεπεςετηςιςκολεντοςπαπερετρ"),
     (27, " όήσαπγιδεεσιμινκεκόλιλλλονενηνιολχεων"),
     (22, " έ ή β λ ώάνένακασγκελησθελάλαμέμιμπνοογομονοπορπόρέρίσαυνχρόλόνότύνώρ"),
     (18, " ά θ υ φάδάλάραμγεδοεκιάκήλημονάνήνίοτπιρωσιτάτήυτ"),
     (14, "άθέρί ίοίσαββαδαζεηρητιλκικρλίμηοσράργρηρόσίσμσουπυρυσωτ"),
     (11, " ζ ιήμαγαθαυαφβάβργογρηθηκημθηθμθορήσσσυσύτωτόυςχιωςύσ"),
     (9, "άμέπέςέτέχήςίείζίτίωβιδηεύθριειτιόκίκκλήλώμάμμμόνόοκπηρχσκτέφεωρόςύ ώ ών"),
     (7, " ράζάσέλέσίραίαδβλγαεδεμευζοθήθαιβιγλέμίμφνδοθτίφαφοχούτώσ"),
     (6, "άγέφήπίκίμδυιώκ κέμήμβνγνθοίπάπέπίπτρμρώσωτσυθφέφρωσόμόπόσ"),
     (5, " ξήθήνήτίδίλαξγίγλγωδρεθζικηνένννωξεοφρτρυσβτ υγυλφυφωχαχωω ωπόρύγύμώμ"),
     (4, " ίάτέαέγήλήραϊβεβογήγμδήδίδωεγεξεωθέιήιδιθιριχκτλύνώοδρ ρύσότζυάυαυμόγύθύπ"),
     (3, " ύΐνάκάπάφέδέθέκέξίςαζβίγάγέγγγνδέδόδώεΐεάεχζαζηζώηλθλιφκλλ λφμ ξηξύπλπωρκρνσά" ++
         "σπσφτττυτώφήφύχίχτϊκύούρώαώτ"),
     (2, " ψ ωΐοάιάοάςάχέζέιέμέοήδήκίηίπίχαΐαέαχαύβόγδγόδάδύεαεβεφζήηγηδηπηχθάθιθνθυθόιέ" ++
         "ιπκδκυκωκύλμλωλόμνμυμύμώξέξαξιοβπήπνπυσδσλσχτύυδυιυκυξυχυϊφάφίφιχθχνχώψάψοωγωδόδόθ" ++
         "όκόχύδύεύλύςύψώδ"),
     (1, "άηίγαοβδεζεόζ ζάζίθώιζιηιωκμλγλτνζνσξτοαοηπ ρβρδρθρλρσσέσθσρυέυευζυψφόχάψηϊτύβ" ++
         "ώπ"),
     (0, "ΐ άβέ ίβαάαήβ βηβνβσγηγυγχγύδμδπεοζλζμζνζπζόθίθωκβκγκνκςκσκφκχκώλβλδλκλνλπλσλυ" ++
         "λχμγμσμτμχνβνκνλνμνυνχξ οζοχπγπππχρζρφσήσντγτθτλτμτντςτχυήυίυβυηυφυόφ φηφλφσφτχ χέ" ++
         "χήχδχλχμχόωθωκωμϊ όαόβόζόφύαύηύιύκύχώς")]

end Provenance.Text.Language
