import Mathlib.Data.List.TakeWhile
import ReportGateway.Proofs.Segments
import ReportGateway.Url.Form

/-!
Relative paths under a base. A relative path is cut at slashes of either kind, and its pieces are
taken one after the other: a single dot adds nothing, a double dot goes up, any other piece is added
(`step`). Two measures follow a path through this. Every piece adds at most one to its length, and a
dot adds none (`weight_foldl_step`); no backslash is among the bytes that it names but those that an
escape stands for (`backslashes_foldl_step`). So a path whose pieces should stay as they are has lost
something for good once one of them is a dot or has been cut at a backslash.
-/

namespace ReportGateway.Url

section Cutting

variable {α : Type} {p : α → Bool}

theorem splitAtAll_ne_nil (l : List α) : splitAtAll p l ≠ [] := by
  cases l with
  | nil => exact List.cons_ne_nil _ _
  | cons c l =>
      rw [splitAtAll]
      split
      · exact List.cons_ne_nil _ _
      · split <;> exact List.cons_ne_nil _ _

theorem splitAtAll_cons_of_not {c : α} (hc : p c = false) {piece : List α} {pieces : List (List α)}
    {l : List α} (h : splitAtAll p l = piece :: pieces) :
    splitAtAll p (c :: l) = (c :: piece) :: pieces := by
  rw [splitAtAll, h]
  simp [hc]

theorem splitAtAll_cons_of_pos {c : α} (hc : p c = true) (l : List α) :
    splitAtAll p (c :: l) = [] :: splitAtAll p l := by
  cases h : splitAtAll p l with
  | nil => exact absurd h (splitAtAll_ne_nil l)
  | cons piece pieces =>
      rw [splitAtAll, h]
      simp [hc]

theorem splitAtAll_of_forall {l : List α} (h : ∀ c ∈ l, p c = false) : splitAtAll p l = [l] := by
  induction l with
  | nil => rfl
  | cons c l ih =>
      rw [List.forall_mem_cons] at h
      exact splitAtAll_cons_of_not h.1 (ih h.2)

theorem splitAtAll_append_cons {c : α} (hc : p c = true) (l l' : List α) :
    splitAtAll p (l ++ c :: l') = splitAtAll p l ++ splitAtAll p l' := by
  induction l with
  | nil => rw [List.nil_append, splitAtAll_cons_of_pos hc]; rfl
  | cons d l ih =>
      rw [List.cons_append]
      by_cases hd : p d = true
      · rw [splitAtAll_cons_of_pos hd, splitAtAll_cons_of_pos hd, ih, List.cons_append]
      · rw [Bool.not_eq_true] at hd
        cases h : splitAtAll p l with
        | nil => exact absurd h (splitAtAll_ne_nil l)
        | cons piece pieces =>
            rw [splitAtAll_cons_of_not hd h]
            rw [h, List.cons_append] at ih
            rw [splitAtAll_cons_of_not hd ih, List.cons_append]

/-- No piece has an element that separates pieces, nor one that was not there. -/
theorem forall_mem_splitAtAll (l : List α) :
    ∀ piece ∈ splitAtAll p l, ∀ c ∈ piece, p c = false ∧ c ∈ l := by
  induction l with
  | nil =>
      intro piece hpiece c hc
      rw [splitAtAll, List.mem_singleton] at hpiece
      rw [hpiece] at hc
      exact absurd hc List.not_mem_nil
  | cons d l ih =>
      cases h : splitAtAll p l with
      | nil => exact absurd h (splitAtAll_ne_nil l)
      | cons first pieces =>
          rw [h, List.forall_mem_cons] at ih
          have hmore : ∀ piece ∈ pieces, ∀ c ∈ piece, p c = false ∧ c ∈ d :: l :=
            fun piece hpiece c hc =>
              ⟨(ih.2 piece hpiece c hc).1, List.mem_cons_of_mem _ (ih.2 piece hpiece c hc).2⟩
          have hfirst : ∀ c ∈ first, p c = false ∧ c ∈ d :: l := fun c hc =>
            ⟨(ih.1 c hc).1, List.mem_cons_of_mem _ (ih.1 c hc).2⟩
          by_cases hd : p d = true
          · rw [splitAtAll_cons_of_pos hd, h, List.forall_mem_cons, List.forall_mem_cons]
            exact ⟨fun c hc => absurd hc List.not_mem_nil, hfirst, hmore⟩
          · rw [Bool.not_eq_true] at hd
            rw [splitAtAll_cons_of_not hd h, List.forall_mem_cons, List.forall_mem_cons]
            exact ⟨⟨⟨hd, List.mem_cons_self⟩, hfirst⟩, hmore⟩

theorem isSlash_eq_false {cs : List Char} (hslash : '/' ∉ cs) (hback : '\\' ∉ cs) :
    ∀ c ∈ cs, isSlash true c = false := by
  intro c hc
  have hne : c ≠ '/' := by
    rintro rfl
    exact hslash hc
  have hne' : c ≠ '\\' := by
    rintro rfl
    exact hback hc
  simp [isSlash, hne, hne']

end Cutting

section Steps

/-- A piece that adds no segment to a path. -/
def IsDots (piece : List Char) : Prop := isDoubleDot piece = true ∨ isSingleDot piece = true

instance (piece : List Char) : Decidable (IsDots piece) := inferInstanceAs (Decidable (_ ∨ _))

/-- What a piece that is not the last makes of a path. -/
def step (done : List String) (piece : List Char) : List String :=
  if isDoubleDot piece then parent done
  else if isSingleDot piece then done
  else done ++ [Percent.encode Percent.path piece]

theorem step_of_not_dots {done : List String} {piece : List Char} (h : ¬IsDots piece) :
    step done piece = done ++ [Percent.encode Percent.path piece] := by
  rw [IsDots, not_or] at h
  rw [step, if_neg h.1, if_neg h.2]

theorem step_of_dots (done : List String) {piece : List Char} (h : IsDots piece) :
    step done piece = done ∨ step done piece = done.dropLast := by
  rw [step]
  by_cases hdouble : isDoubleDot piece = true
  · rw [if_pos hdouble]
    rcases parent_cases done with hsame | ⟨-, hup⟩
    · exact Or.inl hsame
    · exact Or.inr hup
  · rw [if_neg hdouble, if_pos (h.resolve_left hdouble)]
    exact Or.inl rfl

/-- Pieces of which the last is no dot are taken one after the other. -/
theorem resolve_append_singleton (done : List String) (pieces : List (List Char)) {last : List Char}
    (hlast : ¬IsDots last) :
    resolve false done (pieces ++ [last])
      = pieces.foldl step done ++ [Percent.encode Percent.path last] := by
  induction pieces generalizing done with
  | nil =>
      rw [IsDots, not_or] at hlast
      rw [List.nil_append, resolve, if_neg hlast.1, if_neg hlast.2]
      rfl
  | cons piece pieces ih =>
      obtain ⟨next, rest, hnext⟩ := List.exists_cons_of_ne_nil
        (List.append_ne_nil_of_right_ne_nil pieces (List.cons_ne_nil last []))
      rw [List.cons_append, List.foldl_cons, ← ih (step done piece), hnext, resolve, step]
      · split
        · rfl
        · split <;> rfl
      · exact List.cons_ne_nil _ _

theorem slash_not_mem_encode_of {escaped : Percent.Class} {cs : List Char} (h : '/' ∉ cs) :
    '/' ∉ (Percent.encode escaped cs).toList := slash_not_mem_encode fun hmem => absurd hmem h

theorem weight_dropLast_le (path : List String) : weight path.dropLast ≤ weight path := by
  cases path with
  | nil => exact Nat.le_refl _
  | cons s path => exact Nat.le_of_lt (weight_dropLast_lt (List.cons_ne_nil s path))

/-- Pieces add at most one each to the length of a path, and dots add nothing. -/
theorem weight_foldl_step (done : List String) (pieces : List (List Char))
    (hslash : ∀ piece ∈ pieces, '/' ∉ piece) :
    weight (pieces.foldl step done) ≤ weight done + pieces.countP fun piece => ¬IsDots piece := by
  induction pieces generalizing done with
  | nil => exact Nat.le_refl _
  | cons piece pieces ih =>
      rw [List.forall_mem_cons] at hslash
      have hmore := ih (step done piece) hslash.2
      rw [List.foldl_cons]
      by_cases hdots : IsDots piece
      · rw [List.countP_cons_of_neg (by simp [hdots])]
        have hstep : weight (step done piece) ≤ weight done := by
          rcases step_of_dots done hdots with hsame | hup
          · exact Nat.le_of_eq (by rw [hsame])
          · rw [hup]
            exact weight_dropLast_le done
        omega
      · rw [List.countP_cons_of_pos (by simp [hdots])]
        rw [step_of_not_dots hdots, weight_append,
          weight_singleton (slash_not_mem_encode_of hslash.1)] at hmore
        rw [step_of_not_dots hdots]
        omega

/-- How many bytes of what a path names are backslashes. -/
def backslashes (named : List (List UInt8)) : Nat := named.flatten.count 92

theorem backslashes_append (named named' : List (List UInt8)) :
    backslashes (named ++ named') = backslashes named + backslashes named' := by
  rw [backslashes, List.flatten_append, List.count_append]
  rfl

theorem backslashes_cons (bytes : List UInt8) (named : List (List UInt8)) :
    backslashes (bytes :: named) = bytes.count 92 + backslashes named := by
  rw [backslashes, List.flatten_cons, List.count_append]
  rfl

theorem keepsEscapes_path : Percent.KeepsEscapes Percent.path where
  percent := by decide
  digit := Percent.forall_byte (by decide +kernel)

theorem decoded_singleton_encode {piece : List Char} (h : '/' ∉ piece) :
    (Path.segments [Percent.encode Percent.path piece]).decoded
      = [Percent.decode (String.ofList piece)] := by
  rw [decoded_of_forall (by simpa using slash_not_mem_encode_of h), List.map_singleton,
    Percent.decode_encode_of_keeps keepsEscapes_path]

theorem backslashes_dropLast_le (path : List String) :
    backslashes (Path.segments path.dropLast).decoded ≤ backslashes (Path.segments path).decoded := by
  rcases List.eq_nil_or_concat path with rfl | ⟨front, last, rfl⟩
  · exact Nat.le_refl _
  · rw [List.concat_eq_append, List.dropLast_concat, decoded_append, backslashes_append]
    exact Nat.le_add_right _ _

/-- A path names no more backslashes than its pieces do. -/
theorem backslashes_foldl_step (done : List String) (pieces : List (List Char))
    (hslash : ∀ piece ∈ pieces, '/' ∉ piece) :
    backslashes (Path.segments (pieces.foldl step done)).decoded
      ≤ backslashes (Path.segments done).decoded
        + backslashes (pieces.map fun piece => Percent.decode (String.ofList piece)) := by
  induction pieces generalizing done with
  | nil => exact Nat.le_add_right _ _
  | cons piece pieces ih =>
      rw [List.forall_mem_cons] at hslash
      have hmore := ih (step done piece) hslash.2
      rw [List.foldl_cons, List.map_cons, backslashes_cons]
      by_cases hdots : IsDots piece
      · have hstep : backslashes (Path.segments (step done piece)).decoded
            ≤ backslashes (Path.segments done).decoded := by
          rcases step_of_dots done hdots with hsame | hup
          · exact Nat.le_of_eq (by rw [hsame])
          · rw [hup]
            exact backslashes_dropLast_le done
        omega
      · rw [step_of_not_dots hdots, decoded_append, decoded_singleton_encode hslash.1,
          backslashes_append, backslashes_cons] at hmore
        rw [step_of_not_dots hdots]
        have hnil : backslashes [] = 0 := rfl
        omega

/-- Pieces without a dot among them are all added. -/
theorem foldl_step_of_not_dots (done : List String) (pieces : List (List Char))
    (hdots : ∀ piece ∈ pieces, ¬IsDots piece) :
    pieces.foldl step done = done ++ pieces.map (Percent.encode Percent.path) := by
  induction pieces generalizing done with
  | nil => exact (List.append_nil done).symm
  | cons piece pieces ih =>
      rw [List.forall_mem_cons] at hdots
      rw [List.foldl_cons, step_of_not_dots hdots.1, ih _ hdots.2, List.append_assoc,
        List.singleton_append, List.map_cons]

theorem decode_append_backslash (front rest : List Char) :
    Percent.decode (String.ofList (front ++ '\\' :: rest))
      = Percent.decode (String.ofList front) ++ 92 :: Percent.decode (String.ofList rest) := by
  have hbyte : String.utf8EncodeChar '\\' = [92] := by decide
  rw [Percent.decode, Utf8.encode_ofList, List.flatMap_append, List.flatMap_cons, hbyte,
    List.singleton_append, Percent.decodeBytes_append_cons (by decide) (by decide),
    ← Utf8.encode_ofList, ← Utf8.encode_ofList]
  rfl

/-- A text that is cut at its backslashes names one backslash more for each cut. -/
theorem count_decode_splitAtAll (cs : List Char) (hslash : '/' ∉ cs) :
    (Percent.decode (String.ofList cs)).count 92 + 1
      = backslashes ((splitAtAll (isSlash true) cs).map fun piece =>
          Percent.decode (String.ofList piece)) + (splitAtAll (isSlash true) cs).length := by
  induction hlength : cs.length using Nat.strongRecOn generalizing cs with
  | ind n ih =>
      subst hlength
      by_cases hmem : '\\' ∈ cs
      · obtain ⟨front, rest, rfl, hfront⟩ := List.eq_append_cons_of_mem hmem
        rw [List.mem_append, List.mem_cons, not_or, not_or] at hslash
        have hrest := ih rest.length (by simp; omega) rest hslash.2.2 rfl
        rw [splitAtAll_append_cons (by decide), splitAtAll_of_forall (isSlash_eq_false hslash.1 hfront),
          List.singleton_append, List.map_cons, backslashes_cons, List.length_cons,
          decode_append_backslash, List.count_append, List.count_cons_self]
        omega
      · rw [splitAtAll_of_forall (isSlash_eq_false hslash hmem), List.map_singleton,
          backslashes_cons]
        rfl

end Steps

section Pieces

/-- A piece that a relative path keeps as it is: it is no dot, and it is not cut at a backslash. -/
def Kept (s : String) : Prop := '\\' ∉ s.toList ∧ ¬IsDots s.toList

instance (s : String) : Decidable (Kept s) := inferInstanceAs (Decidable (_ ∧ _))

/-- The pieces that texts between slashes come to once they are cut at backslashes too. -/
def cuts (texts : List String) : List (List Char) :=
  texts.flatMap fun s => splitAtAll (isSlash true) s.toList

theorem cuts_eq_map {texts : List String} (hslash : ∀ s ∈ texts, '/' ∉ s.toList)
    (hback : ∀ s ∈ texts, '\\' ∉ s.toList) : cuts texts = texts.map String.toList := by
  induction texts with
  | nil => rfl
  | cons s texts ih =>
      rw [List.forall_mem_cons] at hslash hback
      rw [cuts, List.flatMap_cons, ← cuts, ih hslash.2 hback.2,
        splitAtAll_of_forall (isSlash_eq_false hslash.1 hback.1), List.singleton_append,
        List.map_cons]

theorem slash_not_mem_cuts (texts : List String) : ∀ piece ∈ cuts texts, '/' ∉ piece := by
  intro piece hpiece hmem
  obtain ⟨s, -, hs⟩ := List.mem_flatMap.mp hpiece
  exact absurd (forall_mem_splitAtAll s.toList piece hs '/' hmem).1 (by decide)

theorem length_le_length_cuts (texts : List String) : texts.length ≤ (cuts texts).length := by
  induction texts with
  | nil => exact Nat.le_refl _
  | cons s texts ih =>
      have hone := List.length_pos_iff.mpr (splitAtAll_ne_nil (p := isSlash true) s.toList)
      rw [cuts, List.flatMap_cons, List.length_append, ← cuts, List.length_cons]
      omega

/-- Only texts without a backslash come to one piece each. -/
theorem backslash_not_mem_of_length {texts : List String}
    (h : (cuts texts).length ≤ texts.length) : ∀ s ∈ texts, '\\' ∉ s.toList := by
  induction texts with
  | nil => exact fun s hs => absurd hs List.not_mem_nil
  | cons s texts ih =>
      have hone := List.length_pos_iff.mpr (splitAtAll_ne_nil (p := isSlash true) s.toList)
      have hmore := length_le_length_cuts texts
      rw [cuts, List.flatMap_cons, List.length_append, ← cuts, List.length_cons] at h
      rw [List.forall_mem_cons]
      refine ⟨fun hmem => ?_, ih (by omega)⟩
      obtain ⟨front, rest, hsplit⟩ := List.append_of_mem hmem
      have hfront := List.length_pos_iff.mpr (splitAtAll_ne_nil (p := isSlash true) front)
      have hrest := List.length_pos_iff.mpr (splitAtAll_ne_nil (p := isSlash true) rest)
      rw [hsplit, splitAtAll_append_cons (by decide), List.length_append] at h
      omega

/-- What is cut into more pieces than it has texts names fewer backslashes by as much. -/
theorem backslashes_cuts {texts : List String} (hslash : ∀ s ∈ texts, '/' ∉ s.toList) :
    backslashes (texts.map Percent.decode) + texts.length
      = backslashes ((cuts texts).map fun piece => Percent.decode (String.ofList piece))
        + (cuts texts).length := by
  induction texts with
  | nil => rfl
  | cons s texts ih =>
      rw [List.forall_mem_cons] at hslash
      have hcount := count_decode_splitAtAll s.toList hslash.1
      have hmore := ih hslash.2
      rw [String.ofList_toList] at hcount
      rw [List.map_cons, backslashes_cons, cuts, List.flatMap_cons, ← cuts, List.map_append,
        backslashes_append, List.length_append, List.length_cons]
      omega

theorem decoded_map_encode_path {texts : List String} (hslash : ∀ s ∈ texts, '/' ∉ s.toList) :
    (Path.segments ((texts.map String.toList).map (Percent.encode Percent.path))).decoded
      = texts.map Percent.decode := by
  have hnone : ∀ x ∈ (texts.map String.toList).map (Percent.encode Percent.path), '/' ∉ x.toList := by
    intro x hx
    rw [List.map_map] at hx
    obtain ⟨s, hs, rfl⟩ := List.mem_map.mp hx
    exact slash_not_mem_encode_of (hslash s hs)
  rw [decoded_of_forall hnone, List.map_map, List.map_map]
  refine List.map_congr_left fun s _ => ?_
  rw [Function.comp_apply, Function.comp_apply,
    Percent.decode_encode_of_keeps keepsEscapes_path, String.ofList_toList]

theorem measures_le_named {done named : List String}
    (hnamed : named = done ∨ ∃ s, named = done ++ [s]) :
    weight done ≤ weight named ∧
      backslashes (Path.segments done).decoded ≤ backslashes (Path.segments named).decoded ∧
      (weight named ≤ weight done → named = done) := by
  rcases hnamed with rfl | ⟨s, rfl⟩
  · exact ⟨Nat.le_refl _, Nat.le_refl _, fun _ => rfl⟩
  · have hone : 0 < weight [s] := by simp [weight, List.length_pos_iff, Gateway.pieces_ne_nil]
    rw [weight_append, decoded_append, backslashes_append]
    exact ⟨Nat.le_add_right _ _, Nat.le_add_right _ _, fun h => by omega⟩

/-- A relative path whose last piece is kept names its pieces under `named`, where at most the last
segment of `named` is gone at the start, if and only if nothing is gone and every piece is kept. -/
theorem decoded_resolve_iff {done named : List String}
    (hnamed : named = done ∨ ∃ s, named = done ++ [s]) {texts : List String} {last : String}
    (hslash : ∀ s ∈ texts, '/' ∉ s.toList) (hlast : '/' ∉ last.toList) (hkept : Kept last) :
    (Path.segments (resolve false done (cuts texts ++ [last.toList]))).decoded
        = (Path.segments named).decoded ++ (texts ++ [last]).map Percent.decode ↔
      named = done ∧ ∀ s ∈ texts, Kept s := by
  have hend := decoded_singleton_encode hlast
  rw [String.ofList_toList] at hend
  rw [resolve_append_singleton done (cuts texts) hkept.2, decoded_append, hend, List.map_append,
    List.map_singleton, ← List.append_assoc, List.append_cancel_right_eq]
  constructor
  · intro hdecoded
    have hlength := congrArg List.length hdecoded
    have hback := congrArg backslashes hdecoded
    rw [List.length_append, length_decoded, length_decoded, List.length_map] at hlength
    rw [backslashes_append] at hback
    have hweight := weight_foldl_step done (cuts texts) (slash_not_mem_cuts texts)
    have hfew := backslashes_foldl_step done (cuts texts) (slash_not_mem_cuts texts)
    have hcuts := backslashes_cuts hslash
    obtain ⟨hshort, hfewer, hnamed⟩ := measures_le_named hnamed
    have hwhole : ∀ s ∈ texts, '\\' ∉ s.toList := backslash_not_mem_of_length (by omega)
    rw [cuts_eq_map hslash hwhole] at hweight hlength
    have hcount := List.countP_le_length (p := fun piece => decide ¬IsDots piece)
      (l := texts.map String.toList)
    rw [List.length_map] at hcount
    refine ⟨hnamed (by omega), fun s hs => ⟨hwhole s hs, ?_⟩⟩
    have hall : (texts.map String.toList).countP (fun piece => decide ¬IsDots piece)
        = (texts.map String.toList).length := by
      rw [List.length_map]
      omega
    exact of_decide_eq_true (List.countP_eq_length.mp hall s.toList (List.mem_map_of_mem hs))
  · rintro ⟨rfl, hall⟩
    have hdots : ∀ piece ∈ texts.map String.toList, ¬IsDots piece := by
      intro piece hpiece
      obtain ⟨s, hs, rfl⟩ := List.mem_map.mp hpiece
      exact (hall s hs).2
    rw [cuts_eq_map hslash fun s hs => (hall s hs).1, foldl_step_of_not_dots _ _ hdots,
      decoded_append, decoded_map_encode_path hslash]

end Pieces

section Join

/-- The characters of a text that has nothing to be trimmed or passed over all count. -/
theorem significant_eq {s : String} {c d : Char} {m : List Char}
    (hs : s.toList = c :: m ++ [d]) (hc : isTrimmed c = false) (hd : isTrimmed d = false)
    (hkept : ∀ x ∈ s.toList, isIgnored x = false) : significant s = s.toList := by
  have hfront : s.toList.dropWhile isTrimmed = s.toList := by
    rw [hs, List.cons_append, List.dropWhile_cons_of_neg (by simp [hc])]
  have hback : s.toList.reverse.dropWhile isTrimmed = s.toList.reverse := by
    rw [hs, List.reverse_append, List.reverse_singleton, List.singleton_append,
      List.dropWhile_cons_of_neg (by simp [hd])]
  rw [significant, hfront, hback, List.reverse_reverse, List.filter_eq_self]
  intro x hx
  rw [hkept x hx]
  rfl

theorem spanPath_eq {cs : List Char} (h : ∀ c ∈ cs, c ≠ '?' ∧ c ≠ '#') : spanPath cs = (cs, []) := by
  have hall : ∀ c ∈ cs, (c ≠ '?' && c ≠ '#') = true := by
    intro c hc
    simpa using h c hc
  rw [spanPath, List.takeWhile_eq_self_iff.mpr hall, List.dropWhile_eq_nil_iff.mpr hall]

theorem isSpecial_of_http {scheme : String} (h : scheme = "http" ∨ scheme = "https") :
    isSpecial scheme = true := by
  rcases h with rfl | rfl <;> decide

theorem ne_file_of_http {scheme : String} (h : scheme = "http" ∨ scheme = "https") :
    scheme ≠ "file" := by
  rcases h with rfl | rfl <;> decide

/-- The dot in front of a relative path adds nothing to where it leads. -/
theorem extend_dotSlash {scheme : String} (hhttp : scheme = "http" ∨ scheme = "https")
    (done : List String) (cs : List Char) :
    extend scheme done ('.' :: '/' :: cs)
      = resolve false done (splitAtAll (isSlash true) cs) := by
  have hcuts : splitAtAll (isSlash true) ('.' :: '/' :: cs)
      = ['.'] :: splitAtAll (isSlash true) cs :=
    splitAtAll_append_cons (by decide) ['.'] cs
  obtain ⟨piece, pieces, hpieces⟩ :=
    List.exists_cons_of_ne_nil (splitAtAll_ne_nil (p := isSlash true) cs)
  rw [extend, isSpecial_of_http hhttp, hcuts, hpieces, resolve]
  · simp [ne_file_of_http hhttp, isDoubleDot, isSingleDot]
  · exact List.cons_ne_nil _ _

section Relative

variable {s : String} (hchars : ∀ c ∈ s.toList, c ≠ '?' ∧ c ≠ '#' ∧ isIgnored c = false)

include hchars

theorem significant_dotSlash {front : List Char} {d : Char} (hs : s.toList = front ++ [d])
    (hd : isTrimmed d = false) : significant ("./" ++ s) = '.' :: '/' :: s.toList := by
  have htext : ("./" ++ s).toList = '.' :: '/' :: s.toList := by
    rw [String.toList_append]
    rfl
  rw [← htext]
  refine significant_eq (c := '.') (d := d) (m := '/' :: front) ?_ (by decide) hd ?_
  · rw [htext, hs]
    rfl
  · intro x hx
    rw [htext, List.mem_cons, List.mem_cons] at hx
    rcases hx with rfl | rfl | hx
    · decide
    · decide
    · exact (hchars x hx).2.2

theorem spanPath_dotSlash :
    spanPath ('.' :: '/' :: s.toList) = ('.' :: '/' :: s.toList, []) := by
  refine spanPath_eq fun c hc => ?_
  rw [List.mem_cons, List.mem_cons] at hc
  rcases hc with rfl | rfl | hc
  · decide
  · decide
  · exact ⟨(hchars c hc).1, (hchars c hc).2.1⟩

/-- A path that is relative to a base is taken under all but the last segment of the base. -/
theorem join_relative {base : Url} (hhttp : base.scheme = "http" ∨ base.scheme = "https")
    {l : List String} (hpath : base.path = .segments l) {front : List Char} {d : Char}
    (hs : s.toList = front ++ [d]) (hd : isTrimmed d = false) :
    ∃ url, base.join ("./" ++ s) = .ok url ∧ url.scheme = base.scheme ∧
      url.host = base.host ∧ url.port = base.port ∧
      url.path = .segments (resolve false l.dropLast (splitAtAll (isSlash true) s.toList)) := by
  have hscheme : scheme? ('.' :: '/' :: s.toList) = none := by
    simp [scheme?, List.dropWhile]
  have hfile := ne_file_of_http hhttp
  have hslash : isSlash base.special '.' = false := by
    rw [special, isSpecial_of_http hhttp]
    decide
  refine ⟨withQuery (withSegments base
    (resolve false l.dropLast (splitAtAll (isSlash true) s.toList))) [], ?_, rfl, rfl, rfl, ?_⟩
  · rw [join, read, significant_dotSlash hchars hs hd, hscheme]
    dsimp only
    rw [hpath]
    dsimp only
    rw [if_neg hfile, relativeTo]
    · rw [spanPath_dotSlash hchars]
      dsimp only
      rw [hslash, extend_dotSlash hhttp]
      rfl
    · decide
    · decide
  · show Path.segments (if base.scheme = "file" then _ else _) = _
    rw [if_neg hfile]

end Relative

end Join

end ReportGateway.Url
