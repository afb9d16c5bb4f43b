import EInvoice.Text.Digits

/-!
# Expanding environment variables

A configuration text may name environment variables as `$NAME` or `${NAME}`; each is replaced
by the variable's value, or by nothing when it is not set. A name after a bare `$` is a run of
letters, digits and underscores, or one of the special characters `*#$@!?-` and digits
alone. Inside braces the name runs to the closing brace; `${}` and an unclosed `${` are
dropped; a `$` followed by nothing that could start a name, or ending the text, stays.
-/

namespace EInvoice.Config

open EInvoice.Text

/-- Environment variables by name. -/
abbrev Environment := List (String × String)

/-- The value of a variable; the empty text when it is not set. -/
def Environment.get (env : Environment) (name : String) : String :=
  ((env.find? (·.1 = name)).map (·.2)).getD ""

/-- The characters that are variable names on their own. -/
def isSpecialName (c : Char) : Bool := "*#$@!?-".toList.contains c || isDigit c

/-- The characters of a plain variable name. -/
def isNameChar (c : Char) : Bool :=
  c = '_' || isDigit c || ('a' ≤ c && c ≤ 'z') || ('A' ≤ c && c ≤ 'Z')

/-- The variable name after a `$` and the number of characters it takes. An empty name that
takes characters is bad syntax, eaten; one that takes none leaves the `$`. -/
def nameAfterDollar (s : List Char) : String × Nat :=
  match s with
  | '{' :: rest =>
    match rest with
    | c :: '}' :: _ =>
      if isSpecialName c then (c.toString, 3) else braced rest
    | _ => braced rest
  | c :: _ =>
    if isSpecialName c then (c.toString, 1)
    else
      let n := s.takeWhile isNameChar
      (String.ofList n, n.length)
  | [] => ("", 0)
where
  braced (rest : List Char) : String × Nat :=
    let name := rest.takeWhile (· ≠ '}')
    if name.length = rest.length then ("", 1)
    else if name.isEmpty then ("", 2)
    else (String.ofList name, name.length + 2)

/-- Expand the variables of a text, appending to `acc`. -/
def expandChars (env : Environment) : Nat → List Char → String → String
  | 0, _, acc => acc
  | _, [], acc => acc
  | fuel + 1, c :: rest, acc =>
    if c = '$' && !rest.isEmpty then
      let (name, w) := nameAfterDollar rest
      let acc := if name.isEmpty then (if w > 0 then acc else acc.push '$') else acc ++ env.get name
      expandChars env fuel (rest.drop w) acc
    else expandChars env fuel rest (acc.push c)

/-- A text with its environment variables expanded. -/
def expand (env : Environment) (s : String) : String :=
  expandChars env (s.length + 1) s.toList ""

/-- A name takes no more characters than follow the `$`, so expanding moves through the text. -/
theorem nameAfterDollar_le (s : List Char) : (nameAfterDollar s).2 ≤ s.length := by
  have hbraced : ∀ rest : List Char, (nameAfterDollar.braced rest).2 ≤ rest.length + 1 := by
    intro rest
    have hle := (List.takeWhile_prefix (fun x => decide (x ≠ '}')) (l := rest)).length_le
    unfold nameAfterDollar.braced
    dsimp only
    -- unclosed, empty, or a name and its two braces
    split
    · omega
    · split
      · cases rest with
        | nil => simp_all
        | cons c r => simp
      · simp only
        omega
  unfold nameAfterDollar
  split
  · split
    · split
      · simp
      · exact hbraced _
    · exact hbraced _
  · split
    · simp
    · exact (List.takeWhile_prefix _).length_le
  · simp

example : nameAfterDollar [] = ("", 0) ∧ nameAfterDollar "{HOME}/x".toList = ("HOME", 6) := by
  decide

end EInvoice.Config
