import RelationAtlas.Text.Basic
import RelationAtlas.XmlName

/-! # The markup of a document

A document read from left to right as a list of events: tags and character data. Comments and
processing instructions are checked and dropped. -/

namespace RelationAtlas.Xml

/-! ## Characters of XML

Which characters a document may hold, which are white space, and which make up names. Unlike the
names of a query result, the names of a document may hold a colon and characters beyond the basic
plane. -/

def isSpace (c : Char) : Bool := c == ' ' || c == '\t' || c == '\n' || c == '\r'

def isChar (c : Char) : Bool :=
  let n := c.toNat
  n == 0x9 || n == 0xA || n == 0xD || (0x20 ≤ n && n ≤ 0xD7FF) || (0xE000 ≤ n && n ≤ 0xFFFD) ||
    0x10000 ≤ n

def isSupplementary (c : Char) : Bool := 0x10000 ≤ c.toNat && c.toNat ≤ 0xEFFFF

def isNameStart (c : Char) : Bool := c == ':' || XmlName.isStart c || isSupplementary c

def isNameChar (c : Char) : Bool := c == ':' || XmlName.isInner c || isSupplementary c

def skipSpaces (cs : List Char) : List Char := cs.dropWhile isSpace

theorem length_skipSpaces_le (cs : List Char) : (skipSpaces cs).length ≤ cs.length :=
  (List.dropWhile_sublist _).length_le

def strip? : List Char → List Char → Option (List Char)
  | [], cs => some cs
  | _ :: _, [] => none
  | p :: ps, c :: cs => if p = c then strip? ps cs else none

theorem length_of_strip? {ps cs rest : List Char} (h : strip? ps cs = some rest) :
    rest.length + ps.length = cs.length := by
  induction ps generalizing cs with
  | nil => simpa [strip?] using congrArg List.length (Option.some.inj h).symm
  | cons p ps ih =>
    cases cs with
    | nil => simp [strip?] at h
    | cons c cs =>
      simp only [strip?] at h
      split at h
      · have := ih h
        simp only [List.length_cons]
        omega
      · cases h

def cutAt? (mark : List Char) : List Char → Option (List Char × List Char)
  | [] => none
  | c :: rest =>
    match strip? mark (c :: rest) with
    | some after => some ([], after)
    | none => (cutAt? mark rest).map fun (before, after) => (c :: before, after)

theorem length_of_cutAt? {mark cs before after : List Char}
    (h : cutAt? mark cs = some (before, after)) : after.length ≤ cs.length := by
  induction cs generalizing before with
  | nil => simp [cutAt?] at h
  | cons c cs ih =>
    simp only [cutAt?] at h
    split at h
    · rename_i after' found
      have := length_of_strip? found
      simp only [Option.some.injEq, Prod.mk.injEq] at h
      obtain ⟨_, rfl⟩ := h
      omega
    · obtain ⟨⟨b, a⟩, found, h⟩ := Option.map_eq_some_iff.1 h
      simp only [Prod.mk.injEq] at h
      obtain ⟨_, rfl⟩ := h
      exact Nat.le_succ_of_le (ih found)

/-! ## References

Character references and the five predefined entities. A reference to a number that is no
character reads as U+FFFD; a reference to a character that a document may not hold is an error. -/

def entities : List (List Char × Char) := [
  ("quot".toList, '"'), ("amp".toList, '&'), ("apos".toList, '\''), ("lt".toList, '<'),
  ("gt".toList, '>')]

def hexDigits? (cs : List Char) : Option Nat :=
  if cs.isEmpty then none
  else cs.foldlM (fun n c => (XmlName.hexValue? c).map fun d => 16 * n + d) 0

def numbered? (n : Nat) : Option Char :=
  if 0xFFFFFFFF < n then none
  else
    let c := if n.isValidChar then Char.ofNat n else '\uFFFD'
    if isChar c then some c else none

/-- The character that a reference stands for, given what is between `&` and `;`. -/
def referenced? : List Char → Option Char
  | '#' :: 'x' :: ds => (hexDigits? ds).bind numbered?
  | '#' :: ds => (Text.digits? ds).bind numbered?
  | name => entities.lookup name

/-- Replaces references, literal line ends and tabs in the value of an attribute. The counter runs
over the characters of a reference that are still to be passed. -/
def expandFrom : Nat → List Char → Option (List Char)
  | _, [] => some []
  | skip + 1, _ :: rest => expandFrom skip rest
  | 0, '&' :: rest => do
    let (body, _) ← Text.cutAtFirst ';' rest
    return (← referenced? body) :: (← expandFrom (body.length + 1) rest)
  | 0, '\r' :: '\n' :: rest => return ' ' :: (← expandFrom 1 ('\n' :: rest))
  | 0, c :: rest =>
    return (if c = '\t' ∨ c = '\n' ∨ c = '\r' then ' ' else c) :: (← expandFrom 0 rest)

def expand? (cs : List Char) : Option (List Char) := expandFrom 0 cs

/-! ## Events -/

structure QName where
  qualifier : String
  base : String
deriving DecidableEq, Repr

inductive Event
  | opened (name : QName) (attributes : List (QName × String)) (empty : Bool)
  | closed (name : QName)
  | text (blank : Bool)
deriving DecidableEq, Repr

/-- Reads a name. The counter of colons may not pass one, and neither part may begin with a
character that only stands inside names. -/
def qname? (cs : List Char) : Option (QName × List Char) :=
  let word := cs.takeWhile isNameChar
  let (qualifier, base) := (Text.cutAtFirst ':' word).getD ([], word)
  if qualifier.head?.all isNameStart && base.head?.any isNameStart && !base.contains ':' then
    some (⟨String.ofList qualifier, String.ofList base⟩, cs.dropWhile isNameChar)
  else none

theorem length_of_qname? {cs rest : List Char} {n : QName} (h : qname? cs = some (n, rest)) :
    rest.length ≤ cs.length := by
  simp only [qname?] at h
  split at h
  · simp only [Option.some.injEq, Prod.mk.injEq] at h
    obtain ⟨_, rfl⟩ := h
    exact (List.dropWhile_sublist _).length_le
  · cases h

def quoted? : List Char → Option (List Char × List Char)
  | [] => none
  | q :: cs =>
    if q = '"' ∨ q = '\'' then
      let value := cs.takeWhile fun c => c != q && c != '<'
      match cs.dropWhile fun c => c != q && c != '<' with
      | c :: rest => if c = q ∧ value.all isChar then some (value, rest) else none
      | [] => none
    else none

theorem length_of_quoted? {cs rest value : List Char} (h : quoted? cs = some (value, rest)) :
    rest.length < cs.length := by
  cases cs with
  | nil => simp [quoted?] at h
  | cons q cs =>
    simp only [quoted?] at h
    split at h
    · split at h
      · rename_i c rest' found
        split at h
        · simp only [Option.some.injEq, Prod.mk.injEq] at h
          obtain ⟨_, rfl⟩ := h
          have shorter := (cs.dropWhile_sublist fun c => c != q && c != '<').length_le
          rw [found] at shorter
          simp only [List.length_cons] at shorter ⊢
          omega
        · cases h
      · cases h
    · cases h

def attribute? (cs : List Char) : Option ((QName × List Char) × List Char) := do
  let (name, rest) ← qname? cs
  let rest ← strip? ['='] (skipSpaces rest)
  let (value, rest) ← quoted? (skipSpaces rest)
  return ((name, value), rest)

theorem length_of_attribute? {cs rest : List Char} {a : QName × List Char}
    (h : attribute? cs = some (a, rest)) : rest.length < cs.length := by
  simp only [attribute?, Option.bind_eq_bind, Option.bind_eq_some_iff, Option.pure_def,
    Option.some.injEq, Prod.mk.injEq] at h
  obtain ⟨⟨n, r₁⟩, h₁, r₂, h₂, ⟨v, r₃⟩, h₃, _, rfl⟩ := h
  have := length_of_qname? h₁
  have := length_of_strip? h₂
  have := length_of_quoted? h₃
  have := length_skipSpaces_le r₁
  have := length_skipSpaces_le r₂
  simp only [List.length_cons, List.length_nil] at *
  omega

/-- Reads the rest of a start tag: its attributes, and whether it is an empty-element tag. An
attribute needs white space before it. -/
def tagRest? (cs : List Char) : Option ((List (QName × String) × Bool) × List Char) :=
  match skipSpaces cs with
  | '/' :: '>' :: rest => some (([], true), rest)
  | '>' :: rest => some (([], false), rest)
  | _ =>
    if !cs.head?.any isSpace then none
    else match _h : attribute? (skipSpaces cs) with
      | none => none
      | some ((name, raw), rest) =>
        match expand? raw, tagRest? rest with
        | some value, some ((attributes, empty), rest) =>
          some (((name, String.ofList value) :: attributes, empty), rest)
        | _, _ => none
termination_by cs.length
decreasing_by
  exact Nat.lt_of_lt_of_le (length_of_attribute? _h) (length_skipSpaces_le cs)

theorem length_of_tagRest? {cs rest : List Char} {t : List (QName × String) × Bool}
    (h : tagRest? cs = some (t, rest)) : rest.length < cs.length := by
  fun_induction tagRest? cs generalizing t rest with
  | case1 cs rest' found =>
    have := length_skipSpaces_le cs
    simp only [Option.some.injEq, Prod.mk.injEq] at h
    obtain ⟨_, rfl⟩ := h
    rw [found] at this
    simp only [List.length_cons] at this
    omega
  | case2 cs rest' found =>
    have := length_skipSpaces_le cs
    simp only [Option.some.injEq, Prod.mk.injEq] at h
    obtain ⟨_, rfl⟩ := h
    rw [found] at this
    simp only [List.length_cons] at this
    omega
  | case3 => cases h
  | case4 => cases h
  | case5 =>
    rename_i cs _ _ _ _ read _ _ _ _ later _ _ _ ih
    simp only [Option.some.injEq, Prod.mk.injEq] at h
    obtain ⟨_, rfl⟩ := h
    have := length_skipSpaces_le cs
    have := length_of_attribute? read
    have := ih later
    omega
  | case6 => cases h

def startTag? (cs : List Char) : Option (Event × List Char) := do
  let (name, rest) ← qname? cs
  let ((attributes, empty), rest) ← tagRest? rest
  return (.opened name attributes empty, rest)

def endTag? (cs : List Char) : Option (Event × List Char) := do
  let (name, rest) ← qname? cs
  let rest ← strip? ['>'] (skipSpaces rest)
  return (.closed name, rest)

/-- Reads what follows `<!--` of a comment, which may not hold `--` or end with a hyphen. -/
def comment? (cs : List Char) : Option (List Char) := do
  let (content, rest) ← cutAt? "-->".toList cs
  if content.all isChar && (cutAt? ['-', '-'] content).isNone && content.getLast? != some '-' then
    return rest
  else none

def characterSection? (cs : List Char) : Option (Event × List Char) := do
  let (content, rest) ← cutAt? "]]>".toList cs
  if content.all isChar then return (.text false, rest) else none

def instruction? (cs : List Char) : Option (List Char) := do
  if (strip? "xml ".toList cs).isSome || !cs.head?.any isNameStart then none
  let (content, rest) ← cutAt? ['?', '>'] (skipSpaces (cs.dropWhile isNameChar))
  if content.all isChar then return rest else none

def characterData? (cs : List Char) : Option (Event × List Char) :=
  let content := cs.takeWhile (· != '<')
  if content.all isChar && (cutAt? "]]>".toList content).isNone && (expand? content).isSome then
    some (.text (content.all isSpace), cs.dropWhile (· != '<'))
  else none

def item? : List Char → Option (Option Event × List Char)
  | '<' :: '!' :: '-' :: '-' :: rest => (comment? rest).map fun rest => (none, rest)
  | '<' :: '!' :: '[' :: 'C' :: 'D' :: 'A' :: 'T' :: 'A' :: '[' :: rest =>
    (characterSection? rest).map fun (event, rest) => (some event, rest)
  | '<' :: '!' :: _ => none
  | '<' :: '?' :: rest => (instruction? rest).map fun rest => (none, rest)
  | '<' :: '/' :: rest => (endTag? rest).map fun (event, rest) => (some event, rest)
  | '<' :: rest => (startTag? rest).map fun (event, rest) => (some event, rest)
  | cs => (characterData? cs).map fun (event, rest) => (some event, rest)

theorem length_of_startTag? {cs rest : List Char} {e : Event}
    (h : startTag? cs = some (e, rest)) : rest.length < cs.length := by
  simp only [startTag?, Option.bind_eq_bind, Option.bind_eq_some_iff, Option.pure_def,
    Option.some.injEq, Prod.mk.injEq] at h
  obtain ⟨⟨n, r₁⟩, h₁, ⟨⟨as, b⟩, r₂⟩, h₂, _, rfl⟩ := h
  exact Nat.lt_of_lt_of_le (length_of_tagRest? h₂) (length_of_qname? h₁)

theorem length_of_endTag? {cs rest : List Char} {e : Event}
    (h : endTag? cs = some (e, rest)) : rest.length ≤ cs.length := by
  simp only [endTag?, Option.bind_eq_bind, Option.bind_eq_some_iff, Option.pure_def,
    Option.some.injEq, Prod.mk.injEq] at h
  obtain ⟨⟨n, r₁⟩, h₁, r₂, h₂, _, rfl⟩ := h
  exact Nat.le_trans (Nat.le.intro (length_of_strip? h₂))
    (Nat.le_trans (length_skipSpaces_le r₁) (length_of_qname? h₁))

theorem length_of_comment? {cs rest : List Char} (h : comment? cs = some rest) :
    rest.length ≤ cs.length := by
  simp only [comment?, Option.bind_eq_bind, Option.bind_eq_some_iff] at h
  obtain ⟨⟨c, r⟩, h₁, h₂⟩ := h
  split at h₂
  · cases h₂; exact length_of_cutAt? h₁
  · cases h₂

theorem length_of_characterSection? {cs rest : List Char} {e : Event}
    (h : characterSection? cs = some (e, rest)) : rest.length ≤ cs.length := by
  simp only [characterSection?, Option.bind_eq_bind, Option.bind_eq_some_iff] at h
  obtain ⟨⟨c, r⟩, h₁, h₂⟩ := h
  split at h₂
  · cases h₂; exact length_of_cutAt? h₁
  · cases h₂

theorem length_of_instruction? {cs rest : List Char} (h : instruction? cs = some rest) :
    rest.length ≤ cs.length := by
  simp only [instruction?] at h
  split at h
  · cases h
  · simp only [Option.bind_eq_bind, Option.bind_eq_some_iff] at h
    obtain ⟨⟨c, r⟩, h₁, h₂⟩ := h
    split at h₂
    · cases h₂
      exact Nat.le_trans (length_of_cutAt? h₁) (Nat.le_trans (length_skipSpaces_le _)
        (List.dropWhile_sublist _).length_le)
    · cases h₂

theorem length_of_characterData? {c : Char} {cs rest : List Char} {e : Event} (hc : c ≠ '<')
    (h : characterData? (c :: cs) = some (e, rest)) : rest.length ≤ cs.length := by
  simp only [characterData?] at h
  split at h
  · simp only [Option.some.injEq, Prod.mk.injEq] at h
    obtain ⟨_, rfl⟩ := h
    rw [List.dropWhile_cons_of_pos (by simpa using hc)]
    exact (List.dropWhile_sublist _).length_le
  · cases h

theorem length_of_item? {c : Char} {cs rest : List Char} {e : Option Event}
    (h : item? (c :: cs) = some (e, rest)) : rest.length < (c :: cs).length := by
  unfold item? at h
  split at h
  · obtain ⟨r, h, he⟩ := Option.map_eq_some_iff.1 h
    cases he
    have := length_of_comment? h
    simp_all
    omega
  · obtain ⟨⟨_, r⟩, h, he⟩ := Option.map_eq_some_iff.1 h
    cases he
    have := length_of_characterSection? h
    simp_all
    omega
  · cases h
  · obtain ⟨r, h, he⟩ := Option.map_eq_some_iff.1 h
    cases he
    have := length_of_instruction? h
    simp_all
    omega
  · obtain ⟨⟨_, r⟩, h, he⟩ := Option.map_eq_some_iff.1 h
    cases he
    have := length_of_endTag? h
    simp_all
    omega
  · obtain ⟨⟨_, r⟩, h, he⟩ := Option.map_eq_some_iff.1 h
    cases he
    have := length_of_startTag? h
    simp_all
    omega
  · obtain ⟨⟨_, r⟩, h, he⟩ := Option.map_eq_some_iff.1 h
    cases he
    have := length_of_characterData? (by rintro rfl; simp_all) h
    simp only [List.length_cons]
    omega

def events? (cs : List Char) : Option (List Event) :=
  match cs with
  | [] => some []
  | c :: cs =>
    match _h : item? (c :: cs) with
    | none => none
    | some (event, rest) => (events? rest).map fun events => event.toList ++ events
termination_by cs.length
decreasing_by exact length_of_item? _h

def declarationSpace? (cs : List Char) : Option (List Char) :=
  if cs.head?.any isSpace then some (skipSpaces cs)
  else if cs.isEmpty || (strip? ['?', '>'] cs).isSome then some cs
  else none

def declared? (name : List Char) (cs : List Char) : Option (List Char) :=
  if (strip? name cs).isSome then (attribute? cs).map Prod.snd else some cs

/-- What follows the declaration of a document. Its version, encoding and standing are not used,
and a byte order mark before it is skipped. -/
def body? (cs : List Char) : Option (List Char) :=
  let cs := if cs.head? = some '\uFEFF' then cs.drop 1 else cs
  match strip? "<?xml ".toList cs with
  | none => some cs
  | some rest => do
    let rest := skipSpaces rest
    if (strip? "version".toList rest).isNone then none
    let rest ← declarationSpace? (← declared? "version".toList rest)
    let encoded ← declared? "encoding".toList rest
    let rest ← if (strip? "encoding".toList rest).isSome then declarationSpace? encoded
      else some rest
    let rest ← declared? "standalone".toList rest
    strip? ['?', '>'] (skipSpaces rest)

end RelationAtlas.Xml
