import Mathlib.Tactic

/-!
# Texts of the scripts

The scripts for the computer are Python.  A text is the list of its characters, and the methods
of `str` that the scripts call are functions on it.

Only what the scripts rely on is here: the blanks that `split` and `strip` take, which are
those of Unicode, the line ends that `splitlines` knows, which are more than the line feed,
decimal and hexadecimal numbers as the formatting functions write them, and `rpartition`,
which cuts at the last occurrence of a separator.

`rpartition_append` is the one fact that a proof needs: the text behind the last separator has
none in it, so a cut is found again where it was made.  The rest is there to be evaluated, on
the listings of the connector and on the arguments of a command line.
-/

namespace ReverseTether

/-- A `str`. -/
abbrev Text := List Char

namespace Text

/-- `c.isspace()`. -/
def isSpace (c : Char) : Bool :=
  let n := c.toNat
  (9 ≤ n && n ≤ 13) || (0x1c ≤ n && n ≤ 0x20) || n == 0x85 || n == 0xa0 || n == 0x1680 ||
    (0x2000 ≤ n && n ≤ 0x200a) || n == 0x2028 || n == 0x2029 || n == 0x202f || n == 0x205f ||
    n == 0x3000

/-- `text.split()`. -/
def split (text : Text) : List Text := (text.splitOnP isSpace).filter (· ≠ [])

/-- `text.strip()`. -/
def strip (text : Text) : Text :=
  ((text.dropWhile isSpace).reverse.dropWhile isSpace).reverse

/-- The characters that end a line. -/
def isLineEnd (c : Char) : Bool :=
  let n := c.toNat
  (10 ≤ n && n ≤ 13) || (0x1c ≤ n && n ≤ 0x1e) || n == 0x85 || n == 0x2028 || n == 0x2029

/-- `splitlines` when `line` was read of the current line, backwards. -/
def splitlinesFrom (line : Text) : Text → List Text
  | [] => if line = [] then [] else [line.reverse]
  | '\r' :: '\n' :: rest => line.reverse :: splitlinesFrom [] rest
  | c :: rest =>
      if isLineEnd c then line.reverse :: splitlinesFrom [] rest
      else splitlinesFrom (c :: line) rest

/-- `text.splitlines()`. -/
def splitlines (text : Text) : List Text := splitlinesFrom [] text

/-- `part in text`. -/
def contains (text part : Text) : Bool := part <:+: text

/-- `str(n)`. -/
def ofNat (n : ℕ) : Text := (toString n).toList

/-- `str(n)`. -/
def ofInt : ℤ → Text
  | .ofNat n => ofNat n
  | .negSucc n => '-' :: ofNat (n + 1)

/-- `format(n, 'x')` with so many digits. -/
def hex (width n : ℕ) : Text :=
  (List.range width).reverse.map fun place => Nat.digitChar (n / 16 ^ place % 16)

/-- `text.rpartition(c)`: what is before the last separator, the separator, and what follows. -/
def rpartition (text : Text) (c : Char) : Text × Text × Text :=
  let behind := (text.reverse.takeWhile (· ≠ c)).reverse
  if c ∈ text then (text.take (text.length - behind.length - 1), [c], behind)
  else ([], [], text)

theorem rpartition_append {before behind : Text} {c : Char} (last : c ∉ behind) :
    (before ++ c :: behind).rpartition c = (before, [c], behind) := by
  have tail : ((before ++ c :: behind).reverse.takeWhile (· ≠ c)).reverse = behind := by
    have others : ∀ d ∈ behind.reverse, decide (d ≠ c) = true := by
      intro d mem
      apply decide_eq_true
      rintro rfl
      exact last (List.mem_reverse.mp mem)
    rw [List.reverse_append, List.reverse_cons, List.append_assoc,
      List.takeWhile_append_of_pos others]
    simp
  have mem : c ∈ before ++ c :: behind := by simp
  have length : (before ++ c :: behind).length - behind.length - 1 = before.length := by
    simp only [List.length_append, List.length_cons]
    omega
  unfold rpartition
  simp only [tail, if_pos mem, length, List.take_left]

/-- Where there is a separator the parts make up the text. -/
theorem rpartition_eq {text before separator behind : Text} {c : Char}
    (parts : text.rpartition c = (before, separator, behind)) (found : separator ≠ []) :
    text = before ++ c :: behind := by
  by_cases mem : c ∈ text
  · obtain ⟨as, bs, split, first⟩ := List.eq_append_cons_of_mem (List.mem_reverse.mpr mem)
    have whole : text = bs.reverse ++ c :: as.reverse := by
      rw [← List.reverse_reverse text, split]
      simp
    rw [whole, rpartition_append (by simpa using first)] at parts
    obtain ⟨rfl, -, rfl⟩ := by simpa using parts
    exact whole
  · unfold rpartition at parts
    simp only [if_neg mem] at parts
    exact absurd (Prod.mk.inj (Prod.mk.inj parts).2).1.symm found

end Text

end ReverseTether
