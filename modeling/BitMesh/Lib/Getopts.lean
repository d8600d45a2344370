import Mathlib

/-!
# Arguments of a shell script

What bash does with the words a program passes to a script: the splitting
of an unquoted expansion, and the `getopts` loop. A word is a list of
characters. `getopts` reads the words from the left, one letter at a
time, and stops for good at the first word that is not an option.
-/

namespace BitMesh.Lib

abbrev Word := List Char

/-! ## Word splitting -/

/-- The characters of the default `IFS`. -/
def isBlank (c : Char) : Bool := c == ' ' || c == '\t' || c == '\n'

/-- The words of an unquoted expansion of `s`. -/
def words (s : Word) : List Word := (s.splitOnP isBlank).filter (· ≠ [])

theorem words_of_no_blank {s : Word} (hne : s ≠ []) (h : ∀ c ∈ s, isBlank c = false) :
    words s = [s] := by
  rw [words, List.splitOnP_eq_singleton h]
  simp [hne]

/-- A leading blank is dropped. -/
theorem words_blank_cons {c : Char} (s : Word) (h : isBlank c = true) :
    words (c :: s) = words s := by
  rw [words, List.splitOnP_cons_eq_if_modifyHead, if_pos h]
  simp [words]

/-! ## The option loop -/

/-- What one turn of `while getopts` finds. -/
inductive Getopt where
  | option (letter : Char) (arg : Option Word)
  /-- An unknown letter, or one whose argument is missing. -/
  | invalid (letter : Char)
  deriving DecidableEq, Repr

/-- Whether `optstring` knows a letter, and then whether the letter takes
an argument. -/
def optionKind : Word → Char → Option Bool
  | [], _ => none
  | x :: rest, c =>
      if x = ':' then optionKind rest c
      else if x = c then some (rest.head? == some ':')
      else optionKind rest c

/-- The letters of one option word: what they stand for, and the letter
that still waits for its argument. An argument may be attached. -/
def letters (optstring : Word) : Word → List Getopt × Option Char
  | [] => ([], none)
  | c :: cs =>
      match optionKind optstring c with
      | none => (.invalid c :: (letters optstring cs).1, (letters optstring cs).2)
      | some false => (.option c none :: (letters optstring cs).1, (letters optstring cs).2)
      | some true => if cs = [] then ([], some c) else ([.option c (some cs)], none)

/-- The whole loop, from `OPTIND=1`. The words `-` and those without a
dash are operands, and `--` ends the options. -/
def getopts (optstring : Word) : List Word → List Getopt
  | [] => []
  | ('-' :: c :: cs) :: rest =>
      if c :: cs = ['-'] then []
      else
        match letters optstring (c :: cs), rest with
        | (found, none), rest => found ++ getopts optstring rest
        | (found, some c), [] => found ++ [.invalid c]
        | (found, some c), arg :: rest => found ++ .option c (some arg) :: getopts optstring rest
  | _ :: _ => []

theorem getopts_operand {optstring word : Word} (rest : List Word)
    (h : word.head? ≠ some '-') : getopts optstring (word :: rest) = [] := by
  match word, h with
  | [], _ => rfl
  | c :: cs, h =>
    have hc : c ≠ '-' := by simpa using h
    unfold getopts
    split
    · simp_all
    · simp_all
    · rfl

/-- An option with its argument attached is read as such. -/
theorem getopts_attached {optstring arg : Word} {c : Char} (rest : List Word)
    (hc : optionKind optstring c = some true) (harg : arg ≠ []) :
    getopts optstring (('-' :: c :: arg) :: rest) =
      .option c (some arg) :: getopts optstring rest := by
  have hdash : c :: arg ≠ ['-'] := by simp [harg]
  have hletters : letters optstring (c :: arg) = ([.option c (some arg)], none) := by
    simp [letters, hc, harg]
  simp [getopts, hdash, hletters]

end BitMesh.Lib
