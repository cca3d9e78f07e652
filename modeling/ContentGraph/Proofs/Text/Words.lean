import ContentGraph.Text.Words
import Mathlib.Data.List.Basic

/-!
# Names made of ASCII words

Names of ASCII letters and digits, with underscores, hyphens and spaces between them, stay within
ASCII when their words are capitalized and joined: separators go, and letters only change case.

* `clusters_of_printable` — a printable ASCII character is a cluster of its own;
* `exists_of_mem_splitKinds` — words are made of what is no separator;
* `isAsciiAlphanumeric_of_mem_pascalCase` — what is left are letters and digits;
* `exists_toList_pascalCase` — the first of them is in upper case.
-/

namespace ContentGraph.Text

/-! ### ASCII characters -/

/-- A letter, a digit or a separator of words. -/
def isWordChar (c : Char) : Bool := isAsciiAlphanumeric c || c = '_' || c = '-' || c = ' '

/-- What holds of every ASCII code point holds of every ASCII character. -/
theorem forall_ascii {P : Char → Prop} (h : ∀ n < 128, P (Char.ofNat n)) {c : Char}
    (hc : c.toNat < 128) : P c := by
  have hcode := h c.toNat hc
  rwa [Char.ofNat_toNat] at hcode

theorem toNat_lt_of_isAsciiAlphanumeric {c : Char} (h : isAsciiAlphanumeric c = true) :
    32 ≤ c.toNat ∧ c.toNat < 127 := by
  simp only [isAsciiAlphanumeric, Bool.or_eq_true, Bool.and_eq_true, decide_eq_true_eq, Char.le_def,
    UInt32.le_iff_toNat_le] at h
  have hnat : c.toNat = c.val.toNat := rfl
  have hbounds : ('a'.val.toNat = 97 ∧ 'z'.val.toNat = 122) ∧
      ('A'.val.toNat = 65 ∧ 'Z'.val.toNat = 90) ∧
      '0'.val.toNat = 48 ∧ '9'.val.toNat = 57 := by decide
  omega

theorem toNat_lt_of_isWordChar {c : Char} (h : isWordChar c = true) :
    32 ≤ c.toNat ∧ c.toNat < 127 := by
  simp only [isWordChar, Bool.or_eq_true, decide_eq_true_eq] at h
  rcases h with ((h | rfl) | rfl) | rfl
  · exact toNat_lt_of_isAsciiAlphanumeric h
  all_goals decide

/-- Letters and digits change case within themselves. -/
theorem isAsciiAlphanumeric_toUpper_toLower {c : Char} (h : isAsciiAlphanumeric c = true) :
    isAsciiAlphanumeric c.toUpper = true ∧ isAsciiAlphanumeric c.toLower = true := by
  have hascii : c.toNat < 128 :=
    Nat.lt_of_lt_of_le (toNat_lt_of_isAsciiAlphanumeric h).2 (by decide)
  revert h
  refine forall_ascii (P := fun c => isAsciiAlphanumeric c = true →
    isAsciiAlphanumeric c.toUpper = true ∧ isAsciiAlphanumeric c.toLower = true) ?_ hascii
  decide

/-! ### Clusters -/

theorem ofChar_of_printable {c : Char} (h : 32 ≤ c.toNat ∧ c.toNat < 127) :
    ClusterClass.ofChar c = .other := by
  have hreturn : c.toNat ≠ 13 := by omega
  have hfeed : c.toNat ≠ 10 := by omega
  have hcontrol : ¬(c.toNat < 32 ∨ c.toNat = 127) := by omega
  have hascii : c.toNat < 128 := by omega
  simp only [ClusterClass.ofChar, hreturn, hfeed, hascii, if_false, if_true]
  simp [hcontrol]

/-- Printable ASCII characters are clusters of their own. -/
theorem clusters_of_printable {text : List Char} (h : ∀ c ∈ text, 32 ≤ c.toNat ∧ c.toNat < 127) :
    clusters text = text.map fun c => [c] := by
  have hafter : ∀ {text : List Char}, (∀ c ∈ text, 32 ≤ c.toNat ∧ c.toNat < 127) →
      clustersAfter (.start .other) text = ([], text.map fun c => [c]) := by
    intro text h
    induction text with
    | nil => rfl
    | cons c rest ih =>
      rw [List.forall_mem_cons] at h
      have haccepts : (ClusterEnd.start .other).accepts .other = false := by decide
      simp only [clustersAfter, ofChar_of_printable h.1, haccepts, Bool.false_eq_true, if_false,
        ih h.2, List.map_cons]
  cases text with
  | nil => rfl
  | cons c rest =>
    rw [List.forall_mem_cons] at h
    simp only [clusters, ofChar_of_printable h.1, hafter h.2, List.map_cons]

/-! ### Words -/

/-- A cluster that is no separator is a word, or the start of one. -/
theorem exists_splitKinds_cons (cluster : List Char) (kind : ClusterKind)
    (rest : List (List Char × ClusterKind)) :
    ∃ ends : Bool, splitKinds ((cluster, kind) :: rest) =
      if kind = .separator then [] :: splitKinds rest
      else if ends then cluster :: splitKinds rest else consFirst cluster (splitKinds rest) := by
  cases rest with
  | nil => exact ⟨false, rfl⟩
  | cons next later => exact ⟨wordEndsBetween kind next.2 (later.head?.map Prod.snd), rfl⟩

/-- A character of a word stands in a cluster that is no separator. -/
theorem exists_of_mem_splitKinds {kinds : List (List Char × ClusterKind)}
    {word : List Char} {c : Char} (hword : word ∈ splitKinds kinds) (hc : c ∈ word) :
    ∃ cluster ∈ kinds, cluster.2 ≠ .separator ∧ c ∈ cluster.1 := by
  induction kinds generalizing word with
  | nil =>
    rw [splitKinds, List.mem_singleton] at hword
    rw [hword] at hc
    cases hc
  | cons entry rest ih =>
    obtain ⟨cluster, kind⟩ := entry
    have later : ∀ {word : List Char}, word ∈ splitKinds rest → c ∈ word →
        ∃ other ∈ (cluster, kind) :: rest, other.2 ≠ .separator ∧ c ∈ other.1 := by
      intro word hword hc
      obtain ⟨other, hother, hfound⟩ := ih hword hc
      exact ⟨other, List.mem_cons_of_mem _ hother, hfound⟩
    obtain ⟨ends, hsplit⟩ := exists_splitKinds_cons cluster kind rest
    rw [hsplit] at hword
    split at hword
    · rcases List.mem_cons.mp hword with rfl | hword
      · cases hc
      · exact later hword hc
    · next hkind =>
      have here : c ∈ cluster → ∃ other ∈ (cluster, kind) :: rest, other.2 ≠ .separator ∧
          c ∈ other.1 :=
        fun hmem => ⟨(cluster, kind), List.mem_cons_self, hkind, hmem⟩
      have hcases : word = cluster ∨ word ∈ splitKinds rest ∨
          ∃ first ∈ splitKinds rest, word = cluster ++ first := by
        split at hword
        · exact (List.mem_cons.mp hword).imp id Or.inl
        · cases hfirst : splitKinds rest with
          | nil =>
            rw [hfirst, consFirst, List.mem_singleton] at hword
            exact Or.inl hword
          | cons first others =>
            rw [hfirst, consFirst] at hword
            rcases List.mem_cons.mp hword with rfl | hword
            · exact Or.inr (Or.inr ⟨first, List.mem_cons_self, rfl⟩)
            · exact Or.inr (Or.inl (List.mem_cons_of_mem _ hword))
      rcases hcases with rfl | hword | ⟨first, hfirst, rfl⟩
      · exact here hc
      · exact later hword hc
      · rcases List.mem_append.mp hc with hc | hc
        · exact here hc
        · exact later hfirst hc

/-- Words of letters, digits and separators are made of letters and digits. -/
theorem isAsciiAlphanumeric_of_mem_splitWords {text word : List Char}
    (h : ∀ c ∈ text, isWordChar c = true) (hword : word ∈ splitWords text) : ∀ c ∈ word,
      isAsciiAlphanumeric c = true := by
  intro c hc
  rw [splitWords, clusters_of_printable fun c hc => toNat_lt_of_isWordChar (h c hc),
    List.map_map] at hword
  obtain ⟨entry, hentry, hkind, hmem⟩ := exists_of_mem_splitKinds hword hc
  obtain ⟨d, hd, rfl⟩ := List.mem_map.mp hentry
  simp only [Function.comp_apply, List.mem_singleton] at hmem
  subst hmem
  have hseparator : ¬(c = '_' ∨ c = '-' ∨ c = ' ') := by
    intro hsep
    refine hkind ?_
    rcases hsep with rfl | rfl | rfl <;> rfl
  have hchar := h c hd
  simp only [isWordChar, Bool.or_eq_true, decide_eq_true_eq] at hchar
  rcases hchar with ((hchar | hchar) | hchar) | hchar
  · exact hchar
  · exact absurd (Or.inl hchar) hseparator
  · exact absurd (Or.inr (Or.inl hchar)) hseparator
  · exact absurd (Or.inr (Or.inr hchar)) hseparator

theorem eq_of_ofCluster_separator {cluster : List Char}
    (h : ClusterKind.ofCluster cluster = .separator) :
    cluster = ['_'] ∨ cluster = ['-'] ∨ cluster = [' '] := by
  rw [ClusterKind.ofCluster] at h
  split at h
  · next hseparator => simpa [or_assoc] using hseparator
  · dsimp only at h
    repeat' split at h
    all_goals cases h

theorem ofCluster_ne_separator {c : Char} (h : isAsciiAlphanumeric c = true) :
    ClusterKind.ofCluster [c] ≠ .separator := by
  intro hkind
  rcases eq_of_ofCluster_separator hkind with heq | heq | heq <;>
  · cases heq
    revert h
    decide

/-- The first word of a text that starts with a letter or a digit starts with it. -/
theorem exists_splitWords_cons {c : Char} {rest : List Char} (hc : isAsciiAlphanumeric c = true)
    (hrest : ∀ d ∈ rest, isWordChar d = true) : ∃ word others,
      splitWords (c :: rest) = (c :: word) :: others := by
  have hprintable : ∀ d ∈ c :: rest, 32 ≤ d.toNat ∧ d.toNat < 127 := by
    rw [List.forall_mem_cons]
    exact ⟨toNat_lt_of_isAsciiAlphanumeric hc, fun d hd => toNat_lt_of_isWordChar (hrest d hd)⟩
  rw [splitWords, clusters_of_printable hprintable, List.map_cons, List.map_cons]
  obtain ⟨ends, hsplit⟩ := exists_splitKinds_cons [c] (ClusterKind.ofCluster [c])
    ((rest.map fun d => [d]).map fun cluster => (cluster, ClusterKind.ofCluster cluster))
  rw [hsplit, if_neg (ofCluster_ne_separator hc)]
  split
  · exact ⟨[], _, rfl⟩
  · cases splitKinds ((rest.map fun d => [d]).map fun cluster =>
      (cluster, ClusterKind.ofCluster cluster)) with
    | nil => exact ⟨[], [], rfl⟩
    | cons word others => exact ⟨word, others, rfl⟩

/-! ### Capitalized words -/

theorem isAsciiAlphanumeric_of_mem_lowerAfter {text : List Char}
    (h : ∀ c ∈ text, isAsciiAlphanumeric c = true) :
    ∀ {before : List Char}, ∀ c ∈ lowerAfter before text, isAsciiAlphanumeric c = true := by
  induction text with
  | nil =>
    intro before c hc
    cases hc
  | cons d rest ih =>
    intro before c hc
    rw [List.forall_mem_cons] at h
    have hascii : d.toNat < 128 :=
      Nat.lt_of_lt_of_le (toNat_lt_of_isAsciiAlphanumeric h.1).2 (by decide)
    have hsigma : d ≠ 'Σ' := by
      rintro rfl
      revert hascii
      decide
    rw [lowerAfter] at hc
    simp only [hsigma, if_false, lowerChar, hascii, if_true, List.singleton_append] at hc
    rcases List.mem_cons.mp hc with rfl | hc
    · exact (isAsciiAlphanumeric_toUpper_toLower h.1).2
    · exact ih h.2 c hc

theorem isAsciiAlphanumeric_of_mem_capitalize {word : List Char}
    (h : ∀ c ∈ word, isAsciiAlphanumeric c = true) :
    ∀ c ∈ capitalize word, isAsciiAlphanumeric c = true := by
  cases word with
  | nil =>
    intro c hc
    cases hc
  | cons first rest =>
    intro c hc
    rw [List.forall_mem_cons] at h
    have hascii : first.toNat < 128 :=
      Nat.lt_of_lt_of_le (toNat_lt_of_isAsciiAlphanumeric h.1).2 (by decide)
    rw [capitalize, upperChar, if_pos hascii, List.singleton_append] at hc
    rcases List.mem_cons.mp hc with rfl | hc
    · exact (isAsciiAlphanumeric_toUpper_toLower h.1).1
    · exact isAsciiAlphanumeric_of_mem_lowerAfter h.2 c hc

/-- **Capitalized words stay within ASCII letters and digits** when the name has nothing else but
separators. -/
theorem isAsciiAlphanumeric_of_mem_pascalCase {text : String}
    (h : ∀ c ∈ text.toList, isWordChar c = true) :
    ∀ c ∈ (pascalCase text).toList, isAsciiAlphanumeric c = true := by
  intro c hc
  rw [pascalCase, String.toList_ofList, List.mem_flatMap] at hc
  obtain ⟨word, hword, hc⟩ := hc
  exact isAsciiAlphanumeric_of_mem_capitalize (isAsciiAlphanumeric_of_mem_splitWords h hword) c hc

/-- Capitalized names of words, joined, are made of letters and digits. -/
theorem isAsciiAlphanumeric_of_mem_join {names : List String}
    (h : ∀ name ∈ names, ∀ c ∈ name.toList, isWordChar c = true) :
    ∀ c ∈ (String.join (names.map pascalCase)).toList, isAsciiAlphanumeric c = true := by
  intro c hc
  rw [String.toList_join] at hc
  obtain ⟨word, hword, hc⟩ := List.mem_flatMap.mp hc
  obtain ⟨name, hname, rfl⟩ := List.mem_map.mp hword
  exact isAsciiAlphanumeric_of_mem_pascalCase (h name hname) c hc

/-- A text that starts with a letter or a digit is capitalized to one that starts with its upper
case. -/
theorem exists_toList_pascalCase {text : String} {c : Char} {rest : List Char}
    (htext : text.toList = c :: rest) (hc : isAsciiAlphanumeric c = true)
    (hrest : ∀ d ∈ rest, isWordChar d = true) :
    ∃ tail, (pascalCase text).toList = c.toUpper :: tail := by
  obtain ⟨word, others, hsplit⟩ := exists_splitWords_cons hc hrest
  have hascii : c.toNat < 128 :=
    Nat.lt_of_lt_of_le (toNat_lt_of_isAsciiAlphanumeric hc).2 (by decide)
  rw [pascalCase, String.toList_ofList, htext, hsplit, List.flatMap_cons, capitalize, upperChar,
    if_pos hascii]
  exact ⟨_, rfl⟩

end ContentGraph.Text
