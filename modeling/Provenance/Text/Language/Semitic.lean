import Provenance.Text.Language.Basic

namespace Provenance.Text.Language

def hebrew : Language :=
  .ofLists (-220)
    [(2, " "), (3, "\u05d5\u05d9"), (4, "\u05d0\u05d1\u05d4\u05dc\u05de\u05e0\u05e8\u05ea"),
     (5, "\u05d3\u05dd\u05e1\u05e2\u05e4\u05e7\u05e9"),
     (6, "\u05d2\u05d6\u05d7\u05d8\u05db\u05df"), (7, "\u05e6"), (8, "\u05da"),
     (9, "\u05e3\u05e5")]
    [(254, " \u05d0 \u05d4 \u05de\u05d4 \u05d9 \u05dd \u05ea "),
     (203, " \u05d1 \u05dc \u05e9\u05df "),
     (162, " \u05d5\u05d5 \u05d9\u05dd\u05dc \u05e0\u05d9\u05e8 "),
     (130, "\u05d0\u05d5\u05d5\u05e0\u05d5\u05ea\u05d9\u05d9\u05d9\u05ea\u05dc\u05d9" ++
         "\u05e8\u05d9"),
     (104, " \u05e0 \u05e7\u05d0 \u05d1\u05d9\u05d5\u05dc\u05d5\u05e8\u05d9\u05d5" ++
         "\u05e8\u05d5"),
     (83, " \u05d9 \u05e1 \u05e4\u05d0\u05d9\u05d1\u05e8\u05d4\u05d9\u05d5\u05df" ++
         "\u05d9\u05d0\u05d9\u05d4\u05d9\u05e0\u05dc\u05d5\u05e0\u05d4\u05e7\u05d5"),
     (66, " \u05d2 \u05d3 \u05d7 \u05db\u05d0\u05e0\u05d0\u05ea\u05d3\u05d5\u05d3\u05d9" ++
         "\u05d5\u05d0\u05d5\u05d1\u05d5\u05d9\u05d9\u05e8\u05de\u05d9\u05de\u05e9" ++
         "\u05e0\u05d5\u05e1\u05d9\u05e2\u05d5\u05e4\u05d5\u05e9\u05dc"),
     (53, " \u05e2\u05d0\u05dc\u05d1\u05d5\u05d2 \u05d2\u05d5\u05d3 \u05d4\u05d5" ++
         "\u05d4\u05de\u05d4\u05e2\u05d5\u05d5\u05d5\u05de\u05d5\u05e1\u05d7\u05d5" ++
         "\u05d7\u05e8\u05d8 \u05d8\u05d5\u05d8\u05d9\u05d9\u05d8\u05d9\u05e7\u05dc\u05d0" ++
         "\u05e4\u05e8\u05e7 \u05e9\u05d5\u05e9\u05e2"),
     (42, " \u05d6 \u05e8 \u05ea\u05d0\u05e8\u05d1 \u05d1\u05e2\u05d5\u05d4\u05d5\u05e9" ++
         "\u05d7\u05d9\u05d9\u05d1\u05d9\u05dc\u05d9\u05df\u05d9\u05e9\u05da \u05de\u05d0" ++
         "\u05de\u05d5\u05de\u05e8\u05e0\u05d2\u05e0\u05d3\u05e2\u05dc\u05e7\u05d9" ++
         "\u05e8\u05d0\u05e9 \u05ea\u05d9"),
     (34, " \u05d8\u05d0\u05d7\u05d4\u05d0\u05d4\u05e9\u05d5\u05d3\u05d5\u05d7" ++
         "\u05d5\u05dd\u05d5\u05e7\u05d6\u05d9\u05db\u05d5\u05db\u05dc\u05dc\u05d4" ++
         "\u05de\u05d4\u05de\u05d7\u05e0\u05d8\u05e1 \u05e2 \u05e2\u05d9\u05e3 \u05e4\u05d9" ++
         "\u05e5 \u05e8\u05d1\u05e8\u05d2\u05e9\u05d9\u05e9\u05e0\u05e9\u05e4\u05ea\u05d5"),
     (27, "\u05d1\u05d0\u05d1\u05e0\u05d2\u05d9\u05d3\u05d4\u05d4\u05e4\u05d5\u05d2" ++
         "\u05d5\u05db\u05d6\u05d4\u05d7 \u05d8\u05d4\u05d8\u05e8\u05d9\u05de\u05d9\u05e1" ++
         "\u05d9\u05e4\u05db\u05e0\u05dc\u05d3\u05dc\u05de\u05de\u05dc\u05de\u05e2" ++
         "\u05de\u05e7\u05e1\u05d5\u05e2\u05d1\u05e2\u05e8\u05e7\u05e8\u05e8\u05d4" ++
         "\u05e8\u05db\u05e9\u05e8\u05ea\u05d4"),
     (22, "\u05d0\u05d1\u05d1\u05d4\u05d1\u05dc\u05d1\u05de\u05d1\u05e5\u05d2\u05e8" ++
         "\u05d4\u05e7\u05d4\u05e8\u05d5\u05d8\u05d6\u05d5\u05d9\u05db\u05dc\u05d7" ++
         "\u05dc\u05e4\u05de\u05d1\u05de\u05d3\u05de\u05e6\u05e0\u05e7\u05e0\u05ea" ++
         "\u05e1\u05d8\u05e1\u05e4\u05e7\u05d4\u05e9\u05d1\u05e9\u05ea"),
     (18, " \u05e6\u05d0\u05d3\u05d0\u05d4\u05d0\u05dd\u05d0\u05de\u05d0\u05df" ++
         "\u05d0\u05e4\u05d1\u05ea\u05d4\u05d7\u05d4\u05dc\u05d4\u05dd\u05d5\u05d6" ++
         "\u05d5\u05e4\u05d6 \u05d6\u05db\u05d9\u05d2\u05d9\u05d3\u05db\u05d9\u05dc\u05e9" ++
         "\u05de\u05e0\u05de\u05e1\u05e0\u05e1\u05e1\u05e7\u05e4\u05d4\u05e4\u05ea\u05e6 " ++
         "\u05e8\u05e1\u05e9\u05d4\u05e9\u05de\u05ea\u05e8"),
     (14, "\u05d0\u05d8\u05d0\u05e1\u05d0\u05e7\u05d1\u05d3\u05d1\u05e9\u05d2\u05d3" ++
         "\u05d2\u05dc\u05d2\u05e0\u05d3\u05e8\u05d4\u05d1\u05d4\u05d6\u05d4\u05db" ++
         "\u05d4\u05e6\u05d4\u05ea\u05d5\u05e2\u05d7\u05d3\u05d9\u05e6\u05db\u05d4" ++
         "\u05db\u05ea\u05dc\u05d8\u05dc\u05dc\u05dc\u05dd\u05dc\u05e0\u05e0\u05d0" ++
         "\u05e0\u05de\u05e1\u05d0\u05e1\u05e0\u05e2\u05d4\u05e2\u05de\u05e4\u05dc" ++
         "\u05e4\u05e2\u05e6\u05d0\u05e6\u05d9\u05e7\u05d1\u05e7\u05e0\u05e8\u05d8" ++
         "\u05e8\u05da\u05e8\u05e0\u05e8\u05ea\u05ea\u05de\u05ea\u05e9"),
     (11, "\u05d0\u05d6\u05d0\u05e9\u05d3\u05dc\u05d3\u05dd\u05d3\u05ea\u05d4\u05e1" ++
         "\u05d6\u05e7\u05d6\u05e8\u05d7\u05de\u05d7\u05ea\u05d9\u05d6\u05d9\u05e2" ++
         "\u05db\u05d0\u05db\u05df\u05db\u05e8\u05db\u05e9\u05dc\u05db\u05dc\u05e3" ++
         "\u05de\u05d6\u05de\u05de\u05de\u05df\u05e0\u05e2\u05e1\u05de\u05e4\u05d0" ++
         "\u05e4\u05d8\u05e7\u05d0\u05e7\u05d8\u05e7\u05dc\u05e8\u05d3\u05e8\u05de" ++
         "\u05e8\u05e3\u05e8\u05e7\u05e8\u05e9\u05e9\u05d0\u05e9\u05dd\u05e9\u05e7" ++
         "\u05ea\u05dc"),
     (9, "\u05d0\u05d2\u05d1\u05d7\u05d4\u05d2\u05d5\u05e6\u05d7\u05dc\u05d8\u05e0" ++
         "\u05d9\u05d7\u05d9\u05da\u05db\u05d6\u05dc\u05da\u05de\u05d8\u05e0\u05d1" ++
         "\u05e0\u05e8\u05e0\u05e9\u05e2\u05dd\u05e4\u05e0\u05e6\u05d5\u05e6\u05de" ++
         "\u05e6\u05e4\u05e7\u05df\u05e7\u05e1\u05e8\u05d7\u05e9\u05d2"),
     (7, "\u05d1\u05d1\u05d1\u05d2\u05d1\u05e7\u05d2\u05d0\u05d2\u05d4\u05d3\u05e2" ++
         "\u05d4\u05d4\u05d6\u05de\u05d7\u05d1\u05d7\u05d6\u05d7\u05e7\u05d8\u05d0" ++
         "\u05d8\u05de\u05d8\u05e7\u05db\u05d3\u05db\u05dd\u05dc\u05e7\u05dc\u05e8" ++
         "\u05dc\u05ea\u05de\u05ea\u05e1\u05d3\u05e1\u05d4\u05e1\u05dc\u05e1\u05e8" ++
         "\u05e1\u05ea\u05e2\u05e0\u05e2\u05e9\u05e4\u05d7\u05e4\u05db\u05e4\u05e9" ++
         "\u05e6\u05e2\u05e7\u05e6\u05e7\u05e9\u05e8\u05d6\u05e9\u05d7\u05ea\u05df"),
     (6, "\u05d1\u05d8\u05d1\u05e1\u05d2\u05d1\u05d3\u05d2\u05d3\u05e9\u05d4\u05d3" ++
         "\u05dc\u05d1\u05dc\u05d6\u05de\u05e4\u05e0\u05d6\u05e4\u05e1\u05e8\u05dc" ++
         "\u05e8\u05e4\u05e8\u05e6"),
     (5, "\u05d0\u05e6\u05d1\u05d6\u05d2\u05d6\u05d3\u05d0\u05d3\u05e7\u05d5\u05e3" ++
         "\u05d7\u05d4\u05dc\u05d2\u05e0\u05e0\u05e4\u05d2\u05e7\u05de\u05ea\u05d0" ++
         "\u05ea\u05d1"),
     (4, "\u05d1\u05db\u05d1\u05e4\u05d2\u05dd\u05d2\u05e9\u05d2\u05ea\u05d3\u05d7" ++
         "\u05d3\u05e0\u05d4\u05e0\u05d5\u05e5\u05d6\u05e2\u05d6\u05ea\u05d7\u05e0" ++
         "\u05d7\u05e9\u05d8\u05d3\u05d8\u05df\u05d8\u05e1\u05d8\u05e2\u05db\u05d1" ++
         "\u05db\u05da\u05db\u05e2\u05dc\u05e1\u05de\u05db\u05e0\u05d7\u05e0\u05da" ++
         "\u05e0\u05db\u05e0\u05e4\u05e1\u05da\u05e1\u05db\u05e2\u05d6\u05e2\u05db" ++
         "\u05e2\u05e5\u05e2\u05e6\u05e6\u05d1\u05e6\u05d4\u05e6\u05d8\u05e6\u05dc" ++
         "\u05e6\u05e8\u05e7\u05ea\u05e8\u05e2\u05e9\u05db\u05e9\u05e1\u05e9\u05e9" ++
         "\u05ea\u05d6\u05ea\u05dd\u05ea\u05e0\u05ea\u05e4"),
     (3, "\u05d3\u05df\u05d6\u05d1\u05d8\u05dc\u05de\u05d2\u05e0\u05dc\u05e1\u05d1" ++
         "\u05e1\u05df\u05e2\u05ea\u05e8\u05df\u05e9\u05d8"),
     (2, "\u05d1\u05df\u05d2\u05df\u05d3\u05d1\u05d3\u05de\u05d4\u05df\u05d6\u05d0" ++
         "\u05d7\u05d0\u05d8\u05d1\u05d8\u05d2\u05dc\u05df\u05e0\u05e6\u05e1\u05d7" ++
         "\u05e2\u05d3\u05e4 \u05e4\u05e7\u05e6\u05d2\u05e7\u05d6\u05e7\u05e4\u05e8\u05dd" ++
         "\u05ea\u05e2"),
     (1, "\u05d1\u05e6\u05d2\u05d8\u05d2\u05e4\u05d2\u05e7\u05d3\u05d3\u05d4\u05d8" ++
         "\u05d6\u05d2\u05d6\u05d8\u05d7\u05d2\u05d7\u05df\u05d7\u05e6\u05d9\u05e3" ++
         "\u05d9\u05e5\u05db\u05e3\u05e4\u05d6\u05e4\u05de\u05e4\u05df\u05e8\u05e5" ++
         "\u05e8\u05e8\u05ea\u05e7"),
     (0, " \u05df\u05d0\u05db\u05d0\u05e2\u05d2\u05d2\u05d2\u05d7\u05d2\u05de" ++
         "\u05d2\u05e1\u05d2\u05e2\u05d3\u05d6\u05d3\u05d8\u05d3\u05e1\u05d3\u05e4" ++
         "\u05d3\u05e6\u05d6\u05d3\u05d6\u05d7\u05d6\u05dc\u05d6\u05e0\u05d6\u05e1" ++
         "\u05d7\u05e1\u05d8\u05d7\u05d8\u05d8\u05d8\u05e4\u05d8\u05e9\u05db\u05d8" ++
         "\u05db\u05de\u05db\u05e1\u05e1\u05d2\u05e1\u05dd\u05e1\u05e1\u05e1\u05e2" ++
         "\u05e1\u05e6\u05e4\u05d1\u05e4\u05e4\u05e6\u05e7\u05e7\u05d2\u05e7\u05d3" ++
         "\u05e7\u05e2\u05e7\u05e7\u05e9\u05df\u05ea\u05d2\u05ea\u05d3\u05ea\u05d7" ++
         "\u05ea\u05da")]

def arabic : Language :=
  .ofLists (-220)
    [(2, " "), (3, "\u0627\u0644\u064a"), (4, "\u062a\u0631\u0645\u0646\u0648"),
     (5, "\u0623\u0628\u0629\u062f\u0633\u0639\u0641\u0643\u0647"),
     (6, "\u062c\u062d\u063a\u0642"), (7, "\u0625\u062b\u062e\u0630\u0632\u0634\u0635\u0649"),
     (8, "\u0621\u0626\u0636\u0637"), (9, "\u0622\u0638"), (10, "\u064b\u0651"), (11, "\u0624")]
    [(254, " \u0627\u0627\u0644"), (162, "\u0629 "), (104, "\u064a "),
     (83, " \u0645 \u0648\u0627 \u0646 "), (66, " \u0623\u062a \u064a\u0629"),
     (53, " \u062a\u0631 \u0644\u0645\u0645 "),
     (42, " \u0639 \u0641\u0627\u062a\u0627\u0646\u0641\u064a\u0644 \u0648\u0627" ++
         "\u064a\u0646"),
     (34, " \u0628 \u0644\u062f \u0631\u064a\u0644\u0627\u0645\u0627\u0648 \u0649 "),
     (27, " \u0643 \u064a\u0623\u0648\u0627\u0645\u0628\u064a\u062f\u064a\u0644\u0639" ++
         "\u0644\u064a\u0645\u0646\u0646\u0627\u0646\u064a\u0648\u0644\u064a\u0627"),
     (22, " \u0625 \u0647\u0627\u0631\u0628 \u0628\u0627\u062a\u0648\u0631\u0627" ++
         "\u0639\u0627\u0643\u0627\u0644\u062a\u0644\u0643\u0644\u0649\u0645\u0644" ++
         "\u0645\u064a\u0647\u0627\u064a\u062a"),
     (18, " \u062c\u062a\u064a\u0631\u0629\u0631\u0648\u0633\u0627\u0633\u062a\u0639 " ++
         "\u0639\u0644\u0641 \u0642\u0627\u0642\u064a\u0643 \u0644\u0623\u0644\u0641" ++
         "\u0644\u0646\u0644\u0648\u0645\u062a\u0648\u0631\u0648\u0642\u0648\u0646" ++
         "\u064a\u0631\u064a\u0644"),
     (14, " \u0633\u0621 \u0627\u0621\u0627\u062f\u0627\u0633\u0627\u0641\u0628\u0631" ++
         "\u062a\u0627\u062c\u0627\u062f\u0645\u062f\u0648\u0631\u0628\u0639\u0645" ++
         "\u063a\u064a\u0644\u0628\u0644\u062f\u0644\u063a\u0644\u0642\u0644\u0647" ++
         "\u0645\u0631\u0647 \u0647\u0645"),
     (11, " \u062d \u062f \u0642 \u0646\u0623\u064a\u0625\u0644\u0627\u0626\u0627\u064a" ++
         "\u0628\u0639\u062a\u062d\u062a\u062e\u062a\u0631\u062a\u0633\u062a\u0634" ++
         "\u062a\u0645\u062c\u0645\u062d\u062f\u062e\u062f\u0630\u0627\u0631\u062c\u0633 " ++
         "\u0633\u0645\u0633\u064a\u0639\u062f\u063a\u0627\u0641\u0627\u0644\u0629" ++
         "\u0644\u062d\u0644\u0631\u0644\u0633\u0644\u0644\u0645\u0629\u0645\u0633" ++
         "\u0646\u062a\u0647\u064a\u0648\u0628\u0648\u062a\u0648\u0641\u0648\u0645" ++
         "\u064a\u062f\u064a\u0645\u064a\u0648"),
     (9, " \u063a\u0623\u0646\u062a\u0639\u062a\u0647\u062d\u0631\u062e\u0631" ++
         "\u062f\u0627\u062f\u0629\u0632 \u0635\u0631\u0639\u0646\u0639\u064a\u0641\u0631" ++
         "\u0642 \u0642\u062f\u0643\u0631\u0643\u0648\u0645\u062c\u0645\u062f\u0645\u0635" ++
         "\u0645\u0639\u0645\u0648\u0646\u0629\u0646\u062f\u0646\u0633\u0646\u0647" ++
         "\u0647\u0630\u0648\u0633\u0648\u064a"),
     (7, " \u0631\u0623\u0633\u0623\u0643\u0623\u0644\u0627\u0628\u0627\u062c" ++
         "\u0627\u062d\u0627\u0643\u0627\u0648\u0628\u0648\u062b\u0631\u062c \u062f\u0631" ++
         "\u0631\u0642\u0633\u0628\u0633\u0648\u0639\u0631\u0641\u0629\u0643\u062a" ++
         "\u0643\u062b\u0643\u064a\u0644\u0625\u0644\u062c\u0644\u062e\u0645\u0628" ++
         "\u0646\u0648\u0647\u0648\u0648\u0639\u064a\u0642\u064a\u0643\u064a\u064a"),
     (6, " \u0634\u0625\u0639\u0626\u0629\u062a\u0641\u062c\u064a\u062d\u0627" ++
         "\u0631\u0633\u0632\u064a\u0633\u0639\u0633\u0644\u0634\u063a\u063a\u0629" ++
         "\u0641\u0648\u0643\u0644\u0647\u0631\u064a\u0632\u064a\u0633"),
     (5, " \u0622 \u062b \u0630\u0623\u062e\u0625\u0646\u0627\u0632\u0627\u0639" ++
         "\u0627\u0647\u0628\u062a\u0628\u0644\u0628\u0646\u062a\u0628\u062a\u0642" ++
         "\u062b\u0627\u062b\u0644\u062b\u064a\u062c\u0632\u062c\u0646\u062d \u062d\u0642" ++
         "\u062d\u064a\u0630\u0647\u0631\u0649\u0633\u0643\u0634 \u0634\u0631\u0634\u0645" ++
         "\u0635\u0641\u063a\u0631\u0642\u0629\u0644\u062b\u0644\u0630\u0644\u0634" ++
         "\u0645\u062d\u0645\u0643\u0646\u0643\u0648\u062f\u0648\u0643\u0648\u0647" ++
         "\u064a\u0628\u064a\u062c\u064a\u0647"),
     (4, " \u062e\u0623\u0631\u0627\u062b\u0627\u0635\u0628\u062d\u062a\u063a" ++
         "\u062a\u0644\u062b \u062c\u0648\u062d\u0629\u062e\u0627\u062e\u062a\u062f\u062b" ++
         "\u0631\u062a\u0631\u0645\u0631\u0646\u0634\u0627\u0634\u064a\u0636 \u0639\u0628" ++
         "\u0639\u0634\u0639\u0636\u0642\u0644\u0642\u0648\u0643\u0646\u0645\u0647" ++
         "\u0646\u062c\u0646\u0635\u0648\u0625\u0648\u062c\u0648\u0632\u0648\u0636" ++
         "\u064a\u0634\u064a\u0639"),
     (3, " \u0635 \u0637\u0622\u0646\u0623\u0628\u0623\u062a\u0623\u0635\u0623\u0647" ++
         "\u0626\u0644\u0626\u064a\u0627\u064b\u0628\u0628\u0628\u0629\u0628\u062f" ++
         "\u0628\u0643\u062a\u0637\u062a\u0646\u062b\u0629\u062c\u0628\u062c\u062a" ++
         "\u062c\u0647\u062d\u062c\u062d\u0633\u062d\u0648\u062f\u062f\u062f\u0644" ++
         "\u0630\u064a\u0631\u0623\u0631\u0643\u0632\u0627\u0632\u0631\u0632\u0645" ++
         "\u0633\u0646\u0635\u0627\u0635\u0644\u0635\u064a\u0637 \u0637\u064a\u0639\u062a" ++
         "\u063a\u0648\u0641\u0633\u0642\u0628\u0642\u0631\u0643\u0628\u0643\u0645" ++
         "\u0645\u062e\u0645\u0645\u0646\u0628\u0646\u063a\u0647\u0628\u0647\u0629" ++
         "\u0648\u062d\u0648\u0637\u064a\u062b\u064a\u062e\u064b "),
     (2, " \u0636\u0622\u062e\u0622\u0644\u0623\u062f\u0623\u0641\u0623\u0645" ++
         "\u0625\u062d\u0625\u064a\u0626\u0645\u0627\u062e\u0627\u0634\u0628\u0633" ++
         "\u0628\u0647\u062a\u0623\u062a\u062a\u062a\u0635\u062a\u0643\u062c\u0629" ++
         "\u062c\u062f\u062c\u0631\u062c\u0644\u062d\u062a\u062e\u0632\u062e\u0644" ++
         "\u062f\u0642\u062f\u0646\u062f\u0649\u0630\u0631\u0630\u0644\u0631\u062f" ++
         "\u0631\u063a\u0631\u0647\u0632\u0639\u0632\u0648\u0633\u0626\u0633\u0637" ++
         "\u0634\u0644\u0635 \u0635\u062d\u0635\u0648\u0636\u0627\u0636\u0641\u0636\u0645" ++
         "\u0636\u0648\u0637\u0627\u0637\u0628\u0637\u0642\u0637\u0646\u0638\u0627" ++
         "\u0638\u0629\u0638\u0645\u0639\u0629\u0639\u062c\u0639\u0630\u0639\u0638\u063a " ++
         "\u063a\u0630\u0641\u0625\u0641\u062a\u0641\u062f\u0641\u0634\u0641\u0642" ++
         "\u0642\u0635\u0642\u0639\u0642\u0645\u0643\u0633\u0644\u0622\u0644\u0632" ++
         "\u0644\u0635\u0644\u0636\u0645\u062b\u0645\u0642\u0645\u0649\u0646\u0638" ++
         "\u0647\u062a\u0647\u0644\u0647\u0646\u0648\u0623\u0648\u062b\u0648\u0635" ++
         "\u064a\u062d\u064a\u0641\u064a\u0651\u0651\u0629"),
     (1, " \u0632\u0623 \u0623\u062d\u0623\u0637\u0623\u0639\u0624\u064a\u0625\u062e" ++
         "\u0625\u0630\u0625\u0631\u0625\u0633\u0625\u0636\u0625\u0643\u0626\u0632" ++
         "\u0626\u0637\u0626\u0646\u0627\u0637\u0627\u063a\u0627\u0642\u0628\u0637" ++
         "\u062a\u062b\u062a\u0636\u062b\u0628\u062b\u0642\u062b\u0645\u062b\u0647" ++
         "\u062b\u0648\u062d\u0628\u062d\u0630\u062d\u0632\u062d\u0635\u062d\u0644" ++
         "\u062d\u0645\u062d\u0646\u062e \u062e\u0637\u062e\u0645\u062f\u0623\u062f\u0628" ++
         "\u0630\u0641\u0630\u0649\u0631\u0622\u0631\u0624\u0631\u0626\u0631\u062b" ++
         "\u0631\u062d\u0631\u0641\u0631\u0651\u0632\u0623\u0632\u0629\u0632\u0646" ++
         "\u0633\u0623\u0633\u0629\u0633\u0631\u0633\u0633\u0634\u062c\u0634\u0642" ++
         "\u0634\u0648\u0635\u0629\u0635\u062f\u0635\u0635\u0635\u063a\u0635\u0645" ++
         "\u0636\u0639\u0636\u0647\u0637\u0623\u0637\u0631\u0637\u0648\u0639\u0633" ++
         "\u0639\u0642\u0639\u0647\u0641\u062e\u0641\u0636\u0641\u0638\u0642\u062a" ++
         "\u0643\u0623\u0643\u062f\u0643\u0632\u0645\u0634\u0646\u062d\u0646\u0632" ++
         "\u0646\u0639\u0646\u0641\u0646\u0645\u0647\u0632\u0648\u0621\u0648\u0626" ++
         "\u0648\u0629\u0648\u062e\u0648\u063a\u064a\u0623\u064a\u0626\u064a\u0637" ++
         "\u064a\u063a\u0651\u0631"),
     (0, "\u0622\u064a\u0623\u062b\u0623\u062c\u0623\u0630\u0623\u0632\u0623\u0634" ++
         "\u0623\u063a\u0623\u0642\u0625\u062a\u0625\u062f\u0625\u0641\u0625\u0645" ++
         "\u0626\u062a\u0626\u0631\u0626\u0648\u0627\u0636\u0627\u0649\u0628\u0625" ++
         "\u0628\u062c\u0628\u062e\u0628\u0634\u0628\u063a\u0628\u0645\u062a\u0629" ++
         "\u062a\u062c\u062a\u062f\u062a\u0632\u062a\u0649\u062b\u0639\u062b\u0646" ++
         "\u062c\u0633\u062c\u0639\u062c\u0643\u062d\u062d\u062d\u0643\u062d\u0647" ++
         "\u062e\u0629\u062e\u0633\u062e\u0641\u062e\u0648\u062e\u064a\u062f\u062c" ++
         "\u062f\u062e\u062f\u0632\u062f\u063a\u062f\u0647\u0630 \u0631\u062e\u0631\u0632" ++
         "\u0631\u0634\u0631\u0635\u0631\u0637\u0631\u0639\u0631\u0644\u0632\u0628" ++
         "\u0632\u0633\u0632\u0644\u0632\u0647\u0633\u062b\u0633\u062d\u0633\u062e" ++
         "\u0633\u0641\u0634\u0628\u0634\u0629\u0634\u062a\u0634\u0643\u0634\u0646" ++
         "\u0634\u0647\u0635\u062a\u0636\u0631\u0636\u0644\u0636\u064a\u0637\u0644\u0638 " ++
         "\u0639\u062b\u0639\u0632\u0639\u0648\u063a\u062c\u063a\u062f\u063a\u0633" ++
         "\u063a\u0644\u063a\u0645\u063a\u0646\u0641\u0628\u0641\u0639\u0641\u063a" ++
         "\u0641\u0644\u0641\u0645\u0641\u0646\u0641\u0647\u0642\u0641\u0642\u0646" ++
         "\u0643\u0629\u0643\u0634\u0643\u0641\u0644\u0621\u0644\u0637\u0645\u0626" ++
         "\u0645\u0637\u0645\u063a\u0645\u0641\u0646\u062e\u0646\u0631\u0646\u0634" ++
         "\u0646\u0637\u0646\u0642\u0646\u0644\u0647\u062c\u0647\u0643\u0648\u0634" ++
         "\u0648\u0648\u0648\u0649\u064a\u0621\u064a\u0630")]

end Provenance.Text.Language
