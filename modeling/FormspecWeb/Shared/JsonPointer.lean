import FormspecWeb.Shared.Value

/-!
# JSON pointers

The segments of a pointer, with `~1` for a slash and `~0` for a tilde. Replacing the one and then
the other reads a well-formed segment as one pass would, so that escaping the result gives the
segment back (`escape_unescape`): two segments never stand for one key.
-/

namespace FormspecWeb.Shared.JsonPointer

/-- `text.replace(/~d/g, written)`. -/
def replaceEscape (digit written : Char) : List Char → List Char
  | '~' :: d :: rest =>
    if d == digit then written :: replaceEscape digit written rest
    else '~' :: replaceEscape digit written (d :: rest)
  | c :: rest => c :: replaceEscape digit written rest
  | [] => []

/-- `segment.replace(/~1/g, '/').replace(/~0/g, '~')`. -/
def unescape (segment : List Char) : List Char :=
  replaceEscape '0' '~' (replaceEscape '1' '/' segment)

def escape (key : List Char) : List Char :=
  key.flatMap fun c => if c = '~' then ['~', '0'] else if c = '/' then ['~', '1'] else [c]

inductive Segment : List Char → Prop where
  | nil : Segment []
  | tilde {rest : List Char} : Segment rest → Segment ('~' :: '0' :: rest)
  | slash {rest : List Char} : Segment rest → Segment ('~' :: '1' :: rest)
  | plain {c : Char} {rest : List Char} : c ≠ '~' → c ≠ '/' → Segment rest → Segment (c :: rest)

theorem replaceEscape_plain {digit written c : Char} {rest : List Char} (h : c ≠ '~') :
    replaceEscape digit written (c :: rest) = c :: replaceEscape digit written rest := by
  rw [replaceEscape]
  intro _ _ hc
  exact absurd hc h

theorem unescape_plain {c : Char} {rest : List Char} (h : c ≠ '~') :
    unescape (c :: rest) = c :: unescape rest := by
  rw [unescape, replaceEscape_plain h, replaceEscape_plain h, unescape]

theorem unescape_tilde (rest : List Char) : unescape ('~' :: '0' :: rest) = '~' :: unescape rest := by
  have hzero : replaceEscape '1' '/' ('~' :: '0' :: rest)
      = '~' :: '0' :: replaceEscape '1' '/' rest := by
    rw [replaceEscape, if_neg (by decide), replaceEscape_plain (by decide)]
  rw [unescape, hzero, replaceEscape, if_pos (by decide), unescape]

theorem unescape_slash (rest : List Char) : unescape ('~' :: '1' :: rest) = '/' :: unescape rest := by
  have hone : replaceEscape '1' '/' ('~' :: '1' :: rest) = '/' :: replaceEscape '1' '/' rest := by
    rw [replaceEscape, if_pos (by decide)]
  rw [unescape, hone, replaceEscape_plain (by decide), unescape]

theorem escape_unescape {segment : List Char} (h : Segment segment) :
    escape (unescape segment) = segment := by
  induction h with
  | nil => rfl
  | tilde _ ih =>
    rw [unescape_tilde, escape, List.flatMap_cons, ← escape, ih]
    rfl
  | slash _ ih =>
    rw [unescape_slash, escape, List.flatMap_cons, ← escape, ih]
    rfl
  | plain htilde hslash _ ih =>
    rw [unescape_plain htilde, escape, List.flatMap_cons, ← escape, ih, if_neg htilde,
      if_neg hslash]
    rfl

/-- `/~(?![01])/.test(segment)`. -/
def hasBareTilde : List Char → Bool
  | '~' :: '0' :: rest | '~' :: '1' :: rest => hasBareTilde rest
  | c :: rest => c == '~' || hasBareTilde rest
  | [] => false

def ownMember : Value → String → Option Value
  | .object members, key => members.lookup key
  | .array entries, key =>
    if key == "length" then some (.number entries.length)
    else (entries.zipIdx.find? fun (_, i) => toString i == key).map (·.1)
  | _, _ => none

/-- `pointer.slice(1).split('/')`. -/
def segments (pointer : String) : List (List Char) := (pointer.toList.drop 1).splitOn '/'

/-- The value a pointer leads to, if every segment of it is well formed and owned. -/
def lookup (root : Value) (pointer : String) : Option Value :=
  (segments pointer).foldlM
    (fun value segment =>
      if hasBareTilde segment then none
      else ownMember value (String.ofList (unescape segment)))
    root

end FormspecWeb.Shared.JsonPointer
