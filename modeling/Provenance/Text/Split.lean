namespace Provenance.Text

variable {α : Type}

/-- The parts between separators; there is always at least one. -/
def splitAt [DecidableEq α] (separator : α) : List α → List (List α)
  | [] => [[]]
  | a :: r =>
    if a = separator then [] :: splitAt separator r
    else
      match splitAt separator r with
      | part :: parts => (a :: part) :: parts
      | [] => [[a]]

theorem splitAt_ne_nil [DecidableEq α] (separator : α) (l : List α) : splitAt separator l ≠ [] := by
  cases l with
  | nil => simp [splitAt]
  | cons a r =>
    unfold splitAt
    split
    · simp
    · split <;> simp

def trimEnd (p : α → Bool) (l : List α) : List α := (l.reverse.dropWhile p).reverse

def trimEnds (p : α → Bool) (l : List α) : List α := trimEnd p (l.dropWhile p)

/-- The characters with the property White_Space. -/
def isBlank (c : Char) : Bool :=
  let n := c.toNat
  (9 ≤ n && n ≤ 13) || n = 0x20 || n = 0x85 || n = 0xA0 || n = 0x1680 || (0x2000 ≤ n && n ≤ 0x200A) ||
    n = 0x2028 || n = 0x2029 || n = 0x202F || n = 0x205F || n = 0x3000

def trimBlanks (cs : List Char) : List Char := trimEnds isBlank cs

def skipBlanks (cs : List Char) : List Char := cs.dropWhile isBlank

end Provenance.Text
