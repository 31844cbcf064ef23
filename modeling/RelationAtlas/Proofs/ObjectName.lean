import Mathlib.Data.List.Basic
import RelationAtlas.ObjectName

/-! # Reading escaped names

No part of a name holds a bracket, so that the text between the outermost brackets splits into the
parts again. The escaped form of a name is read as that name. -/

namespace RelationAtlas

namespace Text

variable {d : Char} {ds : List Char}

theorem piecesFrom_skip (separator before after : List Char) :
    piecesFrom separator before.length (before ++ after) = piecesFrom separator 0 after := by
  induction before with
  | nil => rfl
  | cons c before ih => simpa [piecesFrom] using ih

theorem piecesFrom_separator (rest : List Char) : piecesFrom (d :: ds) 0 (d :: ds ++ rest) =
    ([], (piecesFrom (d :: ds) 0 rest).1 :: (piecesFrom (d :: ds) 0 rest).2) := by
  have here : (d :: ds).isPrefixOf (d :: (ds ++ rest)) = true :=
    List.isPrefixOf_iff_prefix.2 (List.prefix_append (d :: ds) rest)
  rw [List.cons_append, piecesFrom, if_pos here, List.length_cons, Nat.add_sub_cancel,
    piecesFrom_skip]

theorem piecesFrom_append {piece : List Char} (rest : List Char) (h : d ∉ piece) :
    piecesFrom (d :: ds) 0 (piece ++ rest) =
      (piece ++ (piecesFrom (d :: ds) 0 rest).1, (piecesFrom (d :: ds) 0 rest).2) := by
  induction piece with
  | nil => rfl
  | cons c piece ih =>
    simp only [List.mem_cons, not_or] at h
    rw [List.cons_append, piecesFrom, if_neg (by simp [List.isPrefixOf, h.1]), ih h.2]
    rfl

theorem piecesFrom_intercalate (piece : List Char) {pieces : List (List Char)}
    (h : ∀ p ∈ piece :: pieces, d ∉ p) :
    piecesFrom (d :: ds) 0 (List.intercalate (d :: ds) (piece :: pieces)) = (piece, pieces) := by
  induction pieces generalizing piece with
  | nil =>
    have := @piecesFrom_append d ds piece [] (h piece List.mem_cons_self)
    simpa [piecesFrom] using this
  | cons next pieces ih =>
    obtain ⟨first, later⟩ := List.forall_mem_cons.1 h
    rw [List.intercalate_cons_cons, List.append_assoc, piecesFrom_append _ first,
      piecesFrom_separator, ih next later]
    simp

theorem replaceFrom_of_not_mem (image : List Char) {cs : List Char} (h : d ∉ cs) :
    replaceFrom (d :: ds) image 0 cs = cs := by
  induction cs with
  | nil => rfl
  | cons c cs ih =>
    simp only [List.mem_cons, not_or] at h
    rw [replaceFrom, if_neg (by simp [List.isPrefixOf, h.1]), ih h.2]

theorem mem_of_mem_intercalate {α : Type} {separator : List α} {pieces : List (List α)} {c : α}
    (h : c ∈ List.intercalate separator pieces) : c ∈ separator ∨ ∃ p ∈ pieces, c ∈ p := by
  induction pieces with
  | nil => simp at h
  | cons piece pieces ih =>
    cases pieces with
    | nil => exact .inr ⟨piece, List.mem_cons_self, by simpa using h⟩
    | cons next pieces =>
      rw [List.intercalate_cons_cons, List.mem_append, List.mem_append] at h
      rcases h with (inside | between) | later
      · exact .inr ⟨piece, List.mem_cons_self, inside⟩
      · exact .inl between
      · exact (ih later).imp_right fun ⟨p, hp, inside⟩ => ⟨p, List.mem_cons_of_mem _ hp, inside⟩

theorem mem_intercalate_of_mem {separator piece : List Char} {pieces : List (List Char)}
    {c : Char} (listed : piece ∈ pieces) (inside : c ∈ piece) :
    c ∈ List.intercalate separator pieces := by
  induction pieces with
  | nil => cases listed
  | cons first pieces ih =>
    cases pieces with
    | nil =>
      obtain rfl := List.mem_singleton.1 listed
      simpa using inside
    | cons next pieces =>
      rw [List.intercalate_cons_cons, List.mem_append, List.mem_append]
      rcases List.mem_cons.1 listed with rfl | later
      · exact .inl (.inl inside)
      · exact .inr (ih later)

theorem trimList_of_ends {first last : Char} (inner : List Char) (left : isBlank first = false)
    (right : isBlank last = false) :
    trimList (first :: inner ++ [last]) = first :: inner ++ [last] := by
  simp [trimList, left, right]

end Text

namespace ObjectName

theorem not_reserved_of_partFault? {part : String} (h : partFault? part = none) {c : Char}
    (hc : c ∈ part.toList) : isReserved c = false := by
  rw [partFault?] at h
  split at h
  · cases h
  · split at h
    · cases h
    · rename_i unreserved
      simp only [List.any_eq_true, not_exists, not_and, Bool.not_eq_true] at unreserved
      exact unreserved c hc

theorem partsFault?_eq_none {n : ObjectName} (h : n.isRoot = false) : partsFault? n.parts = none :=
  n.sound.resolve_left fun root => by simp [isRoot, root] at h

theorem partFault?_eq_none {n : ObjectName} (h : n.isRoot = false) {part : String}
    (hp : part ∈ n.parts) : partFault? part = none := by
  have faultless := partsFault?_eq_none h
  rw [partsFault?] at faultless
  split at faultless
  · cases faultless
  · have each := List.findSome?_eq_none_iff.1 faultless part hp
    simpa using each

theorem toList_ne_nil {n : ObjectName} (h : n.isRoot = false) {part : String}
    (hp : part ∈ n.parts) : part.toList ≠ [] := by
  have faultless := partFault?_eq_none h hp
  rw [partFault?] at faultless
  split at faultless
  · cases faultless
  · simp_all

theorem closing_not_mem {n : ObjectName} (h : n.isRoot = false) {part : String}
    (hp : part ∈ n.parts) : ']' ∉ part.toList := fun reserved =>
  absurd (not_reserved_of_partFault? (partFault?_eq_none h hp) reserved) (by decide)

theorem intercalate_enclosed (piece : List Char) (pieces : List (List Char)) :
    List.intercalate ['.'] ((piece :: pieces).map fun p => '[' :: p ++ [']']) =
      '[' :: List.intercalate [']', '.', '['] (piece :: pieces) ++ [']'] := by
  induction pieces generalizing piece with
  | nil => simp
  | cons next pieces ih =>
    have later := ih next
    rw [List.map_cons] at later
    rw [List.map_cons, List.map_cons, List.intercalate_cons_cons, later]
    simp

theorem escaped_of_not_root {n : ObjectName} (h : n.isRoot = false) :
    n.escaped = .ok n.identity := by
  rw [escaped, h]
  rfl

def inner (n : ObjectName) : List Char :=
  List.intercalate [']', '.', '['] (n.parts.map String.toList)

theorem toList_identity {n : ObjectName} (h : n.isRoot = false) :
    n.identity.toList = '[' :: n.inner ++ [']'] := by
  have each : n.parts.map (String.toList ∘ escapePart) =
      (n.parts.map String.toList).map fun p => '[' :: p ++ [']'] := by
    rw [List.map_map]
    refine List.map_congr_left fun p hp => ?_
    simp [escapePart, Text.doubled_eq_self (closing_not_mem h hp)]
  obtain ⟨parts, sound⟩ := n
  cases parts with
  | nil => cases h
  | cons part parts =>
    rw [identity, String.toList_intercalate, List.map_map, each]
    exact intercalate_enclosed part.toList (parts.map String.toList)

theorem mem_identity {n : ObjectName} (h : n.isRoot = false) {c : Char}
    (hc : c ∈ n.identity.toList) : c ∈ ['[', ']', '.'] ∨ ∃ p ∈ n.parts, c ∈ p.toList := by
  have marks : ∀ d ∈ [']', '.', '['], d ∈ ['[', ']', '.'] := by simp
  rw [toList_identity h, List.mem_append, List.mem_cons, List.mem_singleton] at hc
  rcases hc with (rfl | inside) | rfl
  · exact .inl (by decide)
  · rcases Text.mem_of_mem_intercalate inside with between | ⟨p, hp, within⟩
    · exact .inl (marks c between)
    · obtain ⟨part, listed, rfl⟩ := List.mem_map.1 hp
      exact .inr ⟨part, listed, within⟩
  · exact .inl (by decide)

theorem partsOf?_enclosed {n : ObjectName} (h : n.isRoot = false) :
    partsOf? ('[' :: n.inner ++ [']']) = some n.parts := by
  have closing : ∀ p ∈ n.parts.map String.toList, ']' ∉ p := by
    intro p hp
    obtain ⟨part, listed, rfl⟩ := List.mem_map.1 hp
    exact closing_not_mem h listed
  have unescaped : ∀ p ∈ n.parts, Text.replace "]]" "]" p = p := by
    intro p hp
    have : Text.replaceFrom [']', ']'] [']'] 0 p.toList = p.toList :=
      Text.replaceFrom_of_not_mem _ (closing_not_mem h hp)
    simp [Text.replace, this]
  have pieces : Text.split "].[" (String.ofList n.inner) = n.parts := by
    obtain ⟨parts, sound⟩ := n
    cases parts with
    | nil => cases h
    | cons part parts =>
      have cut : Text.piecesFrom [']', '.', '['] 0 (List.intercalate [']', '.', '[']
          (part.toList :: parts.map String.toList)) = _ :=
        Text.piecesFrom_intercalate part.toList closing
      simp [Text.split, inner, cut]
  simp [partsOf?, pieces, List.map_congr_left unescaped]

theorem toList_simple (n : ObjectName) : n.simple.toList =
    List.intercalate ['.'] ((n.parts.map String.toList).map (Text.doubled '.')) := by
  simp [simple, String.toList_intercalate, Function.comp_def]

theorem ofParts_parts {n : ObjectName} (h : n.isRoot = false) : ofParts n.parts = .ok n := by
  have faultless := partsFault?_eq_none h
  rw [ofParts]
  split
  · rename_i found
    cases found.symm.trans faultless
  · rfl

theorem parse_identity {n : ObjectName} (h : n.isRoot = false) : parse n.identity = .ok n := by
  have trimmed : Text.trimList n.identity.toList = '[' :: n.inner ++ [']'] := by
    rw [toList_identity h]
    exact Text.trimList_of_ends n.inner rfl rfl
  rw [parse, trimmed, partsOf?_enclosed h]
  exact ofParts_parts h

end ObjectName

end RelationAtlas
