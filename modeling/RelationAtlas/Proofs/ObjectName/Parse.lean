import Mathlib.Tactic.SplitIfs
import RelationAtlas.Proofs.ObjectName
import RelationAtlas.Proofs.Outcome

/-! # Reading and rendering names

A name is read back from its escaped form, so that the escaped form tells names apart. What is
read from a text is rendered as that text without the blanks around it: in the escaped form if the
text begins with a bracket, and in the simple form if it does not. -/

namespace RelationAtlas

namespace Text

variable {d : Char}

theorem intercalate_cons_head (separator : List Char) (c : Char) (piece : List Char)
    (pieces : List (List Char)) : List.intercalate separator ((c :: piece) :: pieces) =
      c :: List.intercalate separator (piece :: pieces) := by
  cases pieces with
  | nil => simp
  | cons next pieces => simp [List.intercalate_cons_cons]

def piecesOf (separator cs : List Char) : List (List Char) :=
  (piecesFrom separator 0 cs).1 :: (piecesFrom separator 0 cs).2

theorem map_toList_split (separator : String) (cs : List Char) :
    (split separator (String.ofList cs)).map String.toList = piecesOf separator.toList cs := by
  simp [split, piecesOf, Function.comp_def]

theorem intercalate_piecesOf (d : Char) (ds cs : List Char) :
    List.intercalate (d :: ds) (piecesOf (d :: ds) cs) = cs := by
  induction length : cs.length using Nat.strongRecOn generalizing cs with
  | ind n ih =>
    subst length
    by_cases here : (d :: ds).isPrefixOf cs
    · obtain ⟨rest, rfl⟩ := List.isPrefixOf_iff_prefix.1 here
      have shorter : rest.length < (d :: ds ++ rest).length := by
        rw [List.length_append, List.length_cons]
        omega
      have later := ih rest.length shorter rest rfl
      rw [piecesOf] at later
      rw [piecesOf, piecesFrom_separator, List.intercalate_cons_cons, later]
      rfl
    · cases cs with
      | nil => simp [piecesOf, piecesFrom]
      | cons c cs =>
        have later := ih cs.length (Nat.lt_succ_self _) cs rfl
        rw [piecesOf] at later
        rw [piecesOf, piecesFrom, if_neg here, intercalate_cons_head, later]

theorem not_mem_piecesOf (d : Char) (cs : List Char) : ∀ p ∈ piecesOf [d] cs, d ∉ p := by
  induction cs with
  | nil => simp [piecesOf, piecesFrom]
  | cons c cs ih =>
    rw [piecesOf, piecesFrom]
    split_ifs with here
    · exact List.forall_mem_cons.2 ⟨List.not_mem_nil, ih⟩
    · obtain ⟨first, later⟩ := List.forall_mem_cons.1 ih
      have other : d ≠ c := by simpa [List.isPrefixOf] using here
      exact List.forall_mem_cons.2 ⟨List.not_mem_cons_of_ne_of_not_mem other first, later⟩

/-- Collapsing twins leaves one of each pair. -/
theorem mem_replaceFrom_twin {cs : List Char} (h : d ∈ cs) :
    d ∈ replaceFrom [d, d] [d] 0 cs := by
  induction cs with
  | nil => cases h
  | cons c cs ih =>
    rw [replaceFrom]
    split_ifs
    · exact List.mem_append_left _ List.mem_cons_self
    · rcases List.mem_cons.1 h with rfl | later
      · exact List.mem_cons_self
      · exact List.mem_cons_of_mem _ (ih later)

theorem replace_twin_of_not_mem {s : String} (h : ']' ∉ (replace "]]" "]" s).toList) :
    replace "]]" "]" s = s := by
  have absent : ']' ∉ s.toList := by
    intro inside
    rw [replace, String.toList_ofList] at h
    exact h (mem_replaceFrom_twin inside)
  have same : replaceFrom [']', ']'] [']'] 0 s.toList = s.toList :=
    replaceFrom_of_not_mem _ absent
  simp [replace, same]

end Text

namespace ObjectName

theorem ofParts_eq_ok {parts : List String} {n : ObjectName} (h : ofParts parts = .ok n) :
    n.parts = parts ∧ n.isRoot = false := by
  rw [ofParts] at h
  split at h
  · cases h
  · rename_i faultless
    cases h
    refine ⟨rfl, ?_⟩
    cases parts with
    | nil => cases faultless
    | cons part parts => rfl

theorem parse_eq_ok {text : String} {n : ObjectName} (h : parse text = .ok n) :
    partsOf? (Text.trimList text.toList) = some n.parts ∧ n.isRoot = false := by
  rw [parse] at h
  split at h
  · rename_i parts found
    obtain ⟨rfl, real⟩ := ofParts_eq_ok h
    exact ⟨found, real⟩
  · cases h

theorem inner_of_brackets {n : ObjectName} (real : n.isRoot = false) {inside : List Char}
    (parts : n.parts =
      (Text.split "].[" (String.ofList inside)).map (Text.replace "]]" "]")) :
    n.inner = inside := by
  have kept : n.parts = Text.split "].[" (String.ofList inside) := by
    rw [parts]
    refine List.map_congr_left (g := id) (fun piece hpiece => ?_) |>.trans (List.map_id _)
    refine Text.replace_twin_of_not_mem (closing_not_mem real ?_)
    rw [parts]
    exact List.mem_map_of_mem hpiece
  rw [inner, kept, Text.map_toList_split]
  exact Text.intercalate_piecesOf ']' ['.', '['] inside

theorem identity_of_brackets {n : ObjectName} (real : n.isRoot = false) {trimmed : List Char}
    (read : partsOf? trimmed = some n.parts) (opens : trimmed.head? = some '[') :
    n.identity.toList = trimmed := by
  obtain ⟨inside, rfl⟩ := List.head?_eq_some_iff.1 opens
  rw [partsOf?] at read
  split_ifs at read with closes
  have parts := Option.some.inj read
  rw [toList_identity real, inner_of_brackets real parts.symm, List.cons_append,
    List.dropLast_append_getLast? _ closes]

theorem simple_of_dots {n : ObjectName} {trimmed : List Char}
    (read : partsOf? trimmed = some n.parts) (opens : trimmed.head? ≠ some '[') :
    n.simple.toList = trimmed := by
  have parts : n.parts = Text.split "." (String.ofList trimmed) := by
    unfold partsOf? at read
    split at read
    · cases read
    · exact absurd rfl opens
    · exact (Option.some.inj read).symm
  have pieces : n.parts.map String.toList = Text.piecesOf ['.'] trimmed := by
    rw [parts, Text.map_toList_split]
    rfl
  have single : (Text.piecesOf ['.'] trimmed).map (Text.doubled '.') =
      Text.piecesOf ['.'] trimmed :=
    List.map_congr_left (g := id) (fun p hp =>
      Text.doubled_eq_self (Text.not_mem_piecesOf '.' trimmed p hp)) |>.trans (List.map_id _)
  rw [toList_simple, pieces, single, Text.intercalate_piecesOf]

theorem identity_eq_empty_iff {n : ObjectName} : n.identity = "" ↔ n.isRoot = true := by
  cases root : n.isRoot with
  | true =>
    have none : n.parts = [] := List.isEmpty_iff.1 root
    simp [identity, none]
  | false => simp [← String.toList_inj, toList_identity root]

theorem identity_eq_iff {a b : ObjectName} : a.identity = b.identity ↔ a.parts = b.parts := by
  constructor
  · intro same
    cases root : a.isRoot with
    | true =>
      have other : b.isRoot = true := by
        rw [← identity_eq_empty_iff, ← same, identity_eq_empty_iff, root]
      rw [List.isEmpty_iff.1 root, List.isEmpty_iff.1 other]
    | false =>
      have other : b.isRoot = false := by
        rw [← Bool.not_eq_true, ← identity_eq_empty_iff, ← same, identity_eq_empty_iff, root]
        exact Bool.false_ne_true
      have read := parse_identity root
      rw [same, parse_identity other] at read
      cases read
      rfl
  · intro same
    rw [identity, identity, same]

/-- The escaped form of a name is read as the name, and equal escaped forms have equal parts. What
is read from a text has the trimmed text as its escaped form if that begins with a bracket, and as
its simple form otherwise. -/
theorem renderings_inverse :
    (∀ parts n, ofParts parts = .ok n →
      n.parts = parts ∧ ∃ text, n.escaped = .ok text ∧ parse text = .ok n) ∧
    (∀ a b : ObjectName, a.identity = b.identity ↔ a.parts = b.parts) ∧
    ∀ text n, parse text = .ok n →
      ((Text.trim text).toList.head? = some '[' → n.escaped = .ok (Text.trim text)) ∧
      ((Text.trim text).toList.head? ≠ some '[' → n.simple = Text.trim text) := by
  refine ⟨fun parts n made => ?_, fun a b => identity_eq_iff, fun text n read => ?_⟩
  · obtain ⟨same, real⟩ := ofParts_eq_ok made
    exact ⟨same, n.identity, escaped_of_not_root real, parse_identity real⟩
  · obtain ⟨found, real⟩ := parse_eq_ok read
    rw [Text.trim, String.toList_ofList]
    constructor
    · intro opens
      rw [escaped_of_not_root real, ← identity_of_brackets real found opens, String.ofList_toList]
    · intro opens
      rw [← simple_of_dots found opens, String.ofList_toList]

theorem renderings_inverse_blanks : ∃ made bracketed dotted : ObjectName,
    ofParts ["dbo", "a.b"] = .ok made ∧ made.parts = ["dbo", "a.b"] ∧
      parse "\t[dbo].[a.b] " = .ok bracketed ∧ bracketed.escaped = .ok "[dbo].[a.b]" ∧
        made.identity = bracketed.identity ∧
          parse " sys.objects\n" = .ok dotted ∧ dotted.simple = "sys.objects" := by
  obtain ⟨make, same, read⟩ := renderings_inverse
  have first : (ofParts ["dbo", "a.b"]).isOk = true := by decide +kernel
  have second : (parse "\t[dbo].[a.b] ").isOk = true := by decide +kernel
  have third : (parse " sys.objects\n").isOk = true := by decide +kernel
  obtain ⟨made, hmade⟩ := exists_ok_of_isOk first
  obtain ⟨bracketed, hbracketed⟩ := exists_ok_of_isOk second
  obtain ⟨dotted, hdotted⟩ := exists_ok_of_isOk third
  have parts : (parse "\t[dbo].[a.b] ").toOption.map ObjectName.parts = some ["dbo", "a.b"] := by
    decide +kernel
  rw [hbracketed] at parts
  refine ⟨made, bracketed, dotted, hmade, (make _ made hmade).1, hbracketed, ?_, ?_, hdotted, ?_⟩
  · exact (read _ bracketed hbracketed).1 (by decide +kernel)
  · exact (same made bracketed).2 ((make _ made hmade).1.trans (Option.some.inj parts).symm)
  · exact (read _ dotted hdotted).2 (by decide +kernel)

end ObjectName

end RelationAtlas
