import Rosmon.Go.Text
import Rosmon.Go.Hex
import Rosmon.Library.Separated
import Mathlib.Data.List.Nodup

namespace Rosmon.Go

open Library

/-- The letters of `unicode.IsSpace`, in bytes. -/
def spaces : List (List UInt8) :=
  [0x09, 0x0A, 0x0B, 0x0C, 0x0D, 0x20, 0x85, 0xA0, 0x1680, 0x2000, 0x2001, 0x2002, 0x2003, 0x2004,
    0x2005, 0x2006, 0x2007, 0x2008, 0x2009, 0x200A, 0x2028, 0x2029, 0x202F, 0x205F, 0x3000].map
      fun c ↦ bytes (String.singleton (Char.ofNat c))

/-- `strings.TrimSpace` on a text that need not be UTF-8. -/
def trimSpaces (s : List UInt8) : List UInt8 := trim spaces s

theorem spaces_ne_nil : ∀ w ∈ spaces, w ≠ [] := by
  refine List.forall_mem_map.mpr fun c _ h ↦ ?_
  have hempty := bytes_eq_nil.mp h
  exact absurd (congrArg String.length hempty) (by simp)

/-- What stands for a letter other than `%`. -/
def unplus (c : UInt8) : UInt8 := if c = 43 then 32 else c

/-- `url.QueryUnescape`. -/
def queryUnescape : List UInt8 → Option (List UInt8)
  | [] => some []
  | c :: a :: b :: s =>
    if c = 37 then
      match fromHexChar (Char.ofNat a.toNat), fromHexChar (Char.ofNat b.toNat) with
      | some high, some low => (queryUnescape s).map ((high * 16 + low) :: ·)
      | _, _ => none
    else (queryUnescape (a :: b :: s)).map (unplus c :: ·)
  | c :: s => if c = 37 then none else (queryUnescape s).map (unplus c :: ·)

/-- The key and the value of a pair, if it is one that can be read. -/
def parsePair (pair : List UInt8) : Option (List UInt8 × List UInt8) :=
  if 59 ∈ pair ∨ pair = [] then none
  else do
    let (key, value) := (cut [61] pair).getD (pair, [])
    return (← queryUnescape key, ← queryUnescape value)

/-- The pairs of `url.ParseQuery`, in their order. -/
def parseQuery (query : List UInt8) : List (List UInt8 × List UInt8) :=
  (split [38] query).filterMap parsePair

/-- `PostForm`: the first value of the key. -/
def postForm (form : List (List UInt8 × List UInt8)) (key : String) : List UInt8 :=
  (form.lookup (bytes key)).getD []

section Unescape

variable {s t : List UInt8}

theorem queryUnescape_cons {c : UInt8} (hc : c ≠ 37) :
    queryUnescape (c :: s) = (queryUnescape s).map (unplus c :: ·) := by
  obtain _ | ⟨a, _ | ⟨b, s⟩⟩ := s
  · exact if_neg hc
  · exact if_neg hc
  · rw [queryUnescape, if_neg hc]

/-- Three letters are read as one. -/
theorem queryUnescape_escape (h : queryUnescape (37 :: s) = some t) :
    ∃ a b s' c t', s = a :: b :: s' ∧ t = c :: t' ∧ queryUnescape s' = some t' := by
  obtain _ | ⟨a, _ | ⟨b, s⟩⟩ := s
  · cases h
  · cases h
  · rw [queryUnescape, if_pos rfl] at h
    split at h
    · obtain ⟨t', ht', rfl⟩ := Option.map_eq_some_iff.mp h
      exact ⟨a, b, s, _, t', rfl, rfl, ht'⟩
    · cases h

theorem queryUnescape_of_notMem (h : 37 ∉ s) : queryUnescape s = some (s.map unplus) := by
  induction s with
  | nil => rfl
  | cons c s ih =>
    rw [List.mem_cons, not_or] at h
    rw [queryUnescape_cons (Ne.symm h.1), ih h.2]
    rfl

/-- An escape gets shorter when it is read, and nothing gets longer. -/
theorem length_queryUnescape (h : queryUnescape s = some t) :
    t.length ≤ s.length ∧ (37 ∈ s → t.length < s.length) := by
  induction hn : s.length using Nat.strong_induction_on generalizing s t with
  | _ n ih =>
    subst hn
    cases s with
    | nil =>
      cases h
      exact ⟨le_rfl, fun hmem ↦ absurd hmem List.not_mem_nil⟩
    | cons c s =>
      by_cases hc : c = 37
      · rw [hc] at h
        obtain ⟨a, b, s', c', t', rfl, rfl, ht'⟩ := queryUnescape_escape h
        obtain ⟨hle, -⟩ := ih s'.length (by simp only [List.length_cons]; omega) ht' rfl
        simp only [List.length_cons]
        omega
      · rw [queryUnescape_cons hc] at h
        obtain ⟨t', ht', rfl⟩ := Option.map_eq_some_iff.mp h
        obtain ⟨hle, hlt⟩ := ih s.length (by simp) ht' rfl
        simp only [List.length_cons, List.mem_cons]
        refine ⟨by omega, ?_⟩
        rintro (heq | hmem)
        · exact absurd heq.symm hc
        · have := hlt hmem
          omega

theorem map_unplus_eq_self : s.map unplus = s ↔ 43 ∉ s := by
  induction s with
  | nil => simp
  | cons c s ih =>
    have hletter : unplus c = c ↔ ¬43 = c := by
      unfold unplus
      split_ifs with hc
      · rw [hc]
        decide
      · exact iff_of_true rfl fun h ↦ hc h.symm
    rw [List.map_cons, List.cons.injEq, ih, hletter, List.mem_cons, not_or]

end Unescape

section Pairs

variable {pair key value : List UInt8}

theorem length_parsePair (h : parsePair pair = some (key, value)) :
    value.length ≤ pair.length := by
  unfold parsePair at h
  split_ifs at h
  obtain ⟨key', -, h⟩ := Option.bind_eq_some_iff.mp h
  obtain ⟨value', hvalue, h⟩ := Option.bind_eq_some_iff.mp h
  obtain ⟨-, rfl⟩ := Prod.mk.inj (Option.some.inj h)
  refine (length_queryUnescape hvalue).1.trans ?_
  cases hcut : cut [61] pair with
  | none => exact Nat.zero_le _
  | some parts =>
    rw [append_of_cut hcut, List.length_append]
    exact Nat.le_add_left _ _

/-- What is read of a value that stands behind its key. -/
def readValue (value : List UInt8) : Option (List UInt8) :=
  if 59 ∈ value then none else queryUnescape value

/-- A key that stands for itself. -/
def PlainKey (key : List UInt8) : Prop := ∀ c ∈ key, c ∉ [37, 38, 43, 59, 61]

instance : DecidablePred PlainKey := fun key ↦
  inferInstanceAs (Decidable (∀ c ∈ key, c ∉ [37, 38, 43, 59, 61]))

theorem parsePair_field (hkey : PlainKey key) :
    parsePair (key ++ [61] ++ value) = (readValue value).map (key, ·) := by
  have hnot : ∀ c ∈ [37, 38, 43, 59, 61], c ∉ key := fun c hc hmem ↦ hkey c hmem hc
  have hcut : cut [61] (key ++ [61] ++ value) = some (key, value) :=
    (cut_append (List.cons_ne_nil _ _)).mpr (closes_singleton.mpr (hnot 61 (by decide)))
  have hread : queryUnescape key = some key := by
    rw [queryUnescape_of_notMem (hnot 37 (by decide)),
      map_unplus_eq_self.mpr (hnot 43 (by decide))]
  have hsep : (59 ∈ key ++ [61] ++ value ∨ key ++ [61] ++ value = []) ↔ 59 ∈ value := by
    simp [hnot 59 (by decide)]
  unfold parsePair readValue
  rw [hcut]
  by_cases hmem : 59 ∈ value
  · rw [if_pos (hsep.mpr hmem), if_pos hmem]
    rfl
  · rw [if_neg (mt hsep.mp hmem), if_neg hmem, Option.getD_some]
    dsimp only
    rw [hread]
    cases queryUnescape value with
    | none => rfl
    | some read => rfl

theorem length_readValue {read : List UInt8} (h : readValue value = some read) :
    read.length ≤ value.length := by
  unfold readValue at h
  split_ifs at h
  exact (length_queryUnescape h).1

theorem readValue_eq_self : readValue value = some value ↔
    59 ∉ value ∧ 37 ∉ value ∧ 43 ∉ value := by
  unfold readValue
  by_cases hmem : 59 ∈ value
  · rw [if_pos hmem]
    exact iff_of_false nofun fun h ↦ h.1 hmem
  rw [if_neg hmem]
  by_cases hescape : 37 ∈ value
  · refine iff_of_false (fun h ↦ ?_) fun h ↦ h.2.1 hescape
    exact (length_queryUnescape h).2 hescape |>.false
  · rw [queryUnescape_of_notMem hescape, Option.some.injEq, map_unplus_eq_self]
    exact ⟨fun h ↦ ⟨hmem, hescape, h⟩, fun h ↦ h.2.2⟩

end Pairs

section Queries

variable {fields : List (List UInt8 × List UInt8)} {key value : List UInt8}

/-- Fields that are put together as they are. -/
def query (fields : List (List UInt8 × List UInt8)) : List UInt8 :=
  [38].intercalate (fields.map fun f ↦ f.1 ++ [61] ++ f.2)

/-- The parts of a field: the first of them stands behind the key. -/
theorem split_field (hkey : PlainKey key) {part : List UInt8} {parts : List (List UInt8)}
    (h : split [38] value = part :: parts) :
    split [38] (key ++ [61] ++ value) = (key ++ [61] ++ part) :: parts := by
  refine split_append_of_notMem ?_ h
  rw [List.mem_append, not_or]
  exact ⟨fun hmem ↦ hkey 38 hmem (by decide), by decide⟩

theorem parseQuery_query (hne : fields ≠ []) :
    parseQuery (query fields) =
      (fields.flatMap fun f ↦ split [38] (f.1 ++ [61] ++ f.2)).filterMap parsePair := by
  rw [parseQuery, query, split_join (by simpa using hne), List.flatMap_map]

/-- A pair that is found in a field has its key or stands behind a separator in its value. -/
theorem mem_parseQuery_query (hkeys : ∀ f ∈ fields, PlainKey f.1) (hne : fields ≠ [])
    (h : (key, value) ∈ parseQuery (query fields)) : ∃ f ∈ fields,
      (key = f.1 ∧ ∃ w ∈ split [38] f.2, value.length ≤ w.length) ∨
        ∃ w ∈ (split [38] f.2).tail, value.length ≤ w.length := by
  rw [parseQuery_query hne] at h
  obtain ⟨pair, hpair, hread⟩ := List.mem_filterMap.mp h
  obtain ⟨f, hf, hpair⟩ := List.mem_flatMap.mp hpair
  obtain ⟨part, parts, hparts⟩ := List.exists_cons_of_ne_nil (@split_ne_nil _ _ [38] f.2)
  rw [split_field (hkeys f hf) hparts] at hpair
  refine ⟨f, hf, ?_⟩
  rw [hparts]
  obtain rfl | hpair := List.mem_cons.mp hpair
  · rw [parsePair_field (hkeys f hf)] at hread
    obtain ⟨read, hvalue, heq⟩ := Option.map_eq_some_iff.mp hread
    obtain ⟨rfl, rfl⟩ := Prod.mk.inj heq
    exact .inl ⟨rfl, part, List.mem_cons_self, length_readValue hvalue⟩
  · exact .inr ⟨pair, hpair, length_parsePair hread⟩

theorem parseQuery_of_notMem (hkeys : ∀ f ∈ fields, PlainKey f.1) (hne : fields ≠ [])
    (hfree : ∀ f ∈ fields, 38 ∉ f.2) : parseQuery (query fields) =
      fields.filterMap fun f ↦ (readValue f.2).map (f.1, ·) := by
  rw [parseQuery_query hne]
  clear hne
  induction fields with
  | nil => rfl
  | cons f fields ih =>
    rw [List.forall_mem_cons] at hkeys hfree
    have hwhole : split [38] f.2 = [f.2] :=
      split_of_none ((cut_eq_none (List.cons_ne_nil _ _)).mpr
        (mt (List.singleton_infix_iff _ _).mp hfree.1))
    rw [List.flatMap_cons, split_field hkeys.1 hwhole, List.singleton_append,
      List.filterMap_cons, List.filterMap_cons, parsePair_field hkeys.1, ih hkeys.2 hfree.2]

/-- The value of a key is that of its field. -/
theorem lookup_read (hnodup : (fields.map Prod.fst).Nodup) :
    (fields.filterMap fun f ↦ (readValue f.2).map (f.1, ·)).lookup key =
      (fields.lookup key).bind readValue := by
  induction fields with
  | nil => rfl
  | cons f fields ih =>
    rw [List.map_cons, List.nodup_cons] at hnodup
    rw [List.filterMap_cons, List.lookup_cons]
    by_cases hkey : key = f.1
    · have hnone : fields.lookup key = none := by
        rw [List.lookup_eq_none_iff]
        intro f' hf'
        refine bne_iff_ne.mpr fun heq ↦ hnodup.1 ?_
        rw [← hkey, heq]
        exact List.mem_map_of_mem hf'
      rw [hnone] at ih
      rw [hkey, beq_self_eq_true]
      cases hread : readValue f.2 with
      | none => simpa [hread, hkey] using ih hnodup.2
      | some read => simp [hread]
    · have hne : (key == f.1) = false := beq_false_of_ne hkey
      rw [hne, ← ih hnodup.2]
      cases readValue f.2 with
      | none => rfl
      | some read => simp [List.lookup_cons, hne]

/-- A value that is found has not come from a field that is shorter: it is in the field of its
key, or behind a separator. -/
theorem length_postForm (hkeys : ∀ f ∈ fields, PlainKey f.1)
    (hnodup : (fields.map Prod.fst).Nodup) (name : String) (f : List UInt8 × List UInt8)
    (hf : f ∈ fields) (hname : bytes name = f.1)
    (hvalue : postForm (parseQuery (query fields)) name ≠ []) :
    (38 ∉ f.2 ∧ (postForm (parseQuery (query fields)) name).length ≤ f.2.length) ∨
      ∃ g ∈ fields, 38 ∈ g.2 ∧
        (postForm (parseQuery (query fields)) name).length < g.2.length := by
  unfold postForm at hvalue ⊢
  cases hlookup : (parseQuery (query fields)).lookup (bytes name) with
  | none => exact absurd (congrArg (Option.getD · []) hlookup) hvalue
  | some v =>
    obtain ⟨before, after, hmem, -⟩ := List.lookup_eq_some_iff.mp hlookup
    have hpair : (bytes name, v) ∈ parseQuery (query fields) := by simp [hmem]
    have hcount : ∀ s : List UInt8, 38 ∈ s → 2 ≤ (split [38] s).length := by
      intro s hs
      have := List.count_pos_iff.mpr hs
      rw [length_split_singleton]
      omega
    obtain ⟨g, hg, ⟨hkey, w, hw, hle⟩ | ⟨w, hw, hle⟩⟩ :=
      mem_parseQuery_query hkeys (List.ne_nil_of_mem hf) hpair
    · have hsame : g = f := List.inj_on_of_nodup_map hnodup hg hf (hkey.symm.trans hname)
      subst hsame
      have hpart := length_part_le hw
      rw [Option.getD_some]
      by_cases hfree : 38 ∈ g.2
      · have := hcount g.2 hfree
        exact .inr ⟨g, hg, hfree, by omega⟩
      · have := length_split_singleton (38 : UInt8) g.2
        exact .inl ⟨hfree, by omega⟩
    · have hpart := length_part_le (List.mem_of_mem_tail hw)
      have htail := List.length_pos_of_mem hw
      rw [List.length_tail] at htail
      have hmany : 38 ∈ g.2 := by
        by_contra hnot
        rw [length_split_singleton, List.count_eq_zero_of_not_mem hnot] at htail
        omega
      exact .inr ⟨g, hg, hmany, by rw [Option.getD_some]; omega⟩

end Queries

end Rosmon.Go
