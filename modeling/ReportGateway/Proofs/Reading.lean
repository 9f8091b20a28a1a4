import ReportGateway.Proofs.Relative
import ReportGateway.Proofs.Serving

/-!
What a text is read as that comes to a URL of the web. The text ends in the characters that the path,
the query and the fragment are read from (`exists_withPath_of_parse`). So a slash at the end of the
text is at the end of the path where there is neither a query nor a fragment, and the path has an
empty segment there (`path_of_parse`). Where there is one, the slash is part of it, and the path ends
in whatever stands before the mark.
-/

namespace ReportGateway.Url

section Yields

variable {ε α β : Type} {P : α → Prop}

/-- If a reading comes to a value, the value is `P`. -/
def Yields (P : α → Prop) (x : Except ε α) : Prop := ∀ a, x = .ok a → P a

theorem yields_ok {a : α} (h : P a) : Yields P (.ok a : Except ε α) := by
  intro b hb
  cases hb
  exact h

theorem yields_throw_bind (e : ε) (f : β → Except ε α) : Yields P (throw e >>= f) :=
  fun _ h => nomatch h

theorem yields_bind {x : Except ε β} {f : β → Except ε α} (h : ∀ b, Yields P (f b)) :
    Yields P (x >>= f) := by
  intro a ha
  obtain ⟨b, -, hb⟩ := Gateway.exists_of_bind_eq_ok ha
  exact h b a hb

theorem yields_ite {c : Prop} [Decidable c] {x y : Except ε α} (hx : Yields P x)
    (hy : Yields P y) : Yields P (if c then x else y) := by
  split
  · exact hx
  · exact hy

end Yields

section Ends

variable {α : Type}

theorem getLast?_of_suffix {l whole : List α} (h : l <:+ whole) (hne : l ≠ []) :
    l.getLast? = whole.getLast? := by
  obtain ⟨front, rfl⟩ := h
  exact (List.getLast?_append_of_ne_nil front hne).symm

/-- What does not pass a test at the end of a list is kept when a front that passes is dropped. -/
theorem getLast?_dropWhile {p : α → Bool} {l : List α} {x : α} (hl : l.getLast? = some x)
    (hx : p x = false) : (l.dropWhile p).getLast? = some x := by
  have hne : l.dropWhile p ≠ [] := by
    intro hnil
    have hall := List.dropWhile_eq_nil_iff.mp hnil x (List.mem_of_getLast? hl)
    rw [hx] at hall
    cases hall
  rw [getLast?_of_suffix (List.dropWhile_suffix p) hne, hl]

end Ends

section Reading

variable {scheme : String}

theorem withQuery_scheme (u : Url) (cs : List Char) : (withQuery u cs).scheme = u.scheme := by
  unfold withQuery
  dsimp only
  split <;> rfl

theorem withQuery_path (u : Url) (cs : List Char) : (withQuery u cs).path = u.path := by
  unfold withQuery
  dsimp only
  split <;> rfl

theorem withSegments_scheme (u : Url) (path : List String) :
    (withSegments u path).scheme = u.scheme := rfl

theorem withPath_scheme (u : Url) (cs : List Char) : (withPath u cs).scheme = u.scheme := by
  unfold withPath
  dsimp only
  rw [withQuery_scheme, withSegments_scheme, apply_ite Url.scheme, ite_self]

theorem yields_ofFileHost (cs : List Char) :
    Yields (fun url => url.scheme = "file") (ofFileHost cs) := by
  unfold ofFileHost
  dsimp only
  refine yields_ite (yields_ok (withPath_scheme _ _)) (yields_ite (yields_ok (withPath_scheme _ _))
    (yields_bind fun host => ?_))
  split
  · exact yields_ok (withPath_scheme _ _)
  · exact yields_ok (withPath_scheme _ _)

/-- Whatever follows the scheme of a file's URL, it is a file's URL. -/
theorem yields_ofFile (cs : List Char) :
    Yields (fun url => url.scheme = "file") (ofFile none cs) := by
  unfold ofFile
  dsimp only
  split
  · exact yields_ok rfl
  · exact yields_ok (withQuery_scheme _ _)
  · exact yields_ok rfl
  · refine yields_ite (yields_ok ?_) (yields_ite (yields_ofFileHost _) (yields_ite (yields_ok ?_) ?_))
    · rw [withQuery_scheme, withSegments_scheme]
      split <;> rfl
    · exact withQuery_scheme _ _
    · split
      · exact yields_ok (withQuery_scheme _ _)
      · exact yields_ok (withQuery_scheme _ _)

theorem yields_withAuthority (cs : List Char) :
    Yields (fun url => ∃ u left, u.scheme = scheme ∧ url = withPath u (left ++ cs.dropWhile fun c =>
      !isSlash (isSpecial scheme) c && c ≠ '?' && c ≠ '#')) (withAuthority scheme cs) := by
  unfold withAuthority
  dsimp only
  refine yields_ite (yields_throw_bind _ _) (yields_ite (yields_throw_bind _ _)
    (yields_ite (yields_bind fun host => ?_) (yields_bind fun host => ?_)))
  all_goals
    exact yields_ite (yields_throw_bind _ _) (yields_bind fun found => yields_ok ⟨_, _, rfl, rfl⟩)

theorem yields_ofOther (cs : List Char) :
    Yields (fun url => url.scheme = scheme) (ofOther scheme cs) := by
  unfold ofOther
  dsimp only
  split
  · intro url hurl
    obtain ⟨u, left, hscheme, rfl⟩ := yields_withAuthority _ url hurl
    rw [withPath_scheme, hscheme]
  · exact yields_ok (withQuery_scheme _ _)
  · exact yields_ok (withQuery_scheme _ _)

/-- What follows the scheme of a text. -/
theorem suffix_of_scheme? {cs rest : List Char} (h : scheme? cs = some (scheme, rest)) :
    ':' :: rest <:+ cs := by
  unfold scheme? at h
  dsimp only at h
  split at h
  · cases h
  · split at h
    · rename_i hrest
      split at h
      · cases h
        rw [← hrest]
        exact List.dropWhile_suffix _
      · cases h
    · cases h

theorem withAuthority_nil (h : scheme = "http" ∨ scheme = "https") :
    withAuthority scheme [] = .error .emptyHost := by
  rcases h with rfl | rfl <;> rfl

/-- A text that is read as a URL of the web ends in what the URL takes its path from. -/
theorem exists_withPath_of_parse {s : String} {url : Url} (h : parse s = .ok url)
    (hhttp : url.scheme = "http" ∨ url.scheme = "https") :
    ∃ u cs, (u.scheme = "http" ∨ u.scheme = "https") ∧ url = withPath u cs ∧
      ((significant s).getLast? = some '/' → cs.getLast? = some '/') := by
  unfold parse read at h
  dsimp only at h
  split at h
  · rename_i scheme rest hscheme
    split at h
    · exact absurd (yields_ofFile rest url h) (ne_file_of_http hhttp)
    · split at h
      · unfold ofSpecial at h
        dsimp only at h
        obtain ⟨u, left, hu, hurl⟩ := yields_withAuthority _ url h
        rw [hurl, withPath_scheme] at hhttp
        refine ⟨u, _, hhttp, hurl, fun hlast => ?_⟩
        have hcolon := (getLast?_of_suffix (suffix_of_scheme? hscheme) (by simp)).trans hlast
        have hrest : rest.getLast? = some '/' := by
          cases rest with
          | nil => simp at hcolon
          | cons c rest => rwa [List.getLast?_cons_cons] at hcolon
        have hplace : rest.dropWhile (isSlash true) ≠ [] := by
          intro hnil
          rw [hnil, withAuthority_nil (by rwa [← hu])] at h
          cases h
        have hend := getLast?_of_suffix (List.dropWhile_suffix _) hplace
        have htail := getLast?_dropWhile (hend.trans hrest)
          (p := fun c => !isSlash (isSpecial scheme) c && c ≠ '?' && c ≠ '#') (by simp [isSlash])
        rw [List.getLast?_append_of_ne_nil _ (List.ne_nil_of_mem (List.mem_of_getLast? htail))]
        exact htail
      · rename_i hspecial
        rw [yields_ofOther rest url h] at hhttp
        exact absurd (isSpecial_of_http hhttp) hspecial
  · cases h

end Reading

/-- A path of at least one segment, none of which has a slash. -/
structure Segmented (path : List String) : Prop where
  ne_nil : path ≠ []
  slash_not_mem : ∀ s ∈ path, '/' ∉ s.toList

section Rooted

theorem segmented_concat {path : List String} (hpath : ∀ s ∈ path, '/' ∉ s.toList) {s : String}
    (hs : '/' ∉ s.toList) : Segmented (path ++ [s]) := by
  refine ⟨by simp, fun t ht => ?_⟩
  rcases List.mem_append.mp ht with ht | ht
  · exact hpath t ht
  · rw [List.mem_singleton.mp ht]
    exact hs

theorem slash_not_mem_parent {path : List String} (hpath : ∀ s ∈ path, '/' ∉ s.toList) :
    ∀ s ∈ parent path, '/' ∉ s.toList := by
  rcases parent_cases path with hsame | ⟨-, hup⟩
  · rwa [hsame]
  · rw [hup]
    exact fun s hs => hpath s ((List.dropLast_sublist path).mem hs)

theorem segmented_resolve {done : List String} (hdone : ∀ s ∈ done, '/' ∉ s.toList)
    {pieces : List (List Char)} (hpieces : ∀ piece ∈ pieces, '/' ∉ piece) (hne : pieces ≠ []) :
    Segmented (resolve false done pieces) := by
  induction pieces generalizing done with
  | nil => exact absurd rfl hne
  | cons piece more ih =>
      rw [List.forall_mem_cons] at hpieces
      have hempty : '/' ∉ "".toList := by decide
      cases more with
      | nil =>
          unfold resolve
          split
          · exact segmented_concat (slash_not_mem_parent hdone) hempty
          · split
            · exact segmented_concat hdone hempty
            · exact segmented_concat hdone (slash_not_mem_encode_of hpieces.1)
      | cons next rest =>
          have hmore := fun {done : List String} (h : ∀ s ∈ done, '/' ∉ s.toList) =>
            ih h hpieces.2 (List.cons_ne_nil next rest)
          unfold resolve
          split
          · exact hmore (slash_not_mem_parent hdone)
          · split
            · exact hmore hdone
            · exact hmore (segmented_concat hdone (slash_not_mem_encode_of hpieces.1)).slash_not_mem

/-- The path that a URL of the web takes from these characters. -/
def rooted : List Char → List String
  | [] => [""]
  | c :: more =>
    resolve false [] (splitAtAll (isSlash true) (if isSlash true c then more else c :: more))

theorem withPath_eq {u : Url} (hhttp : u.scheme = "http" ∨ u.scheme = "https") (cs : List Char) :
    (withPath u cs).path = .segments (rooted (spanPath cs).1) := by
  have hspecial : u.special = true := isSpecial_of_http hhttp
  have hfile := ne_file_of_http hhttp
  unfold withPath
  dsimp only
  rw [withQuery_path, if_neg fun h => hfile h.1]
  show Path.segments (if u.scheme = "file" then _ else _) = _
  rw [if_neg hfile]
  congr 1
  cases (spanPath cs).1 with
  | nil => simp [hspecial, rooted]
  | cons c more =>
      simp only [hspecial, rooted, extend]
      rw [show isSpecial u.scheme = true from hspecial, decide_eq_false hfile]

theorem segmented_rooted (cs : List Char) : Segmented (rooted cs) := by
  cases cs with
  | nil => exact ⟨by simp [rooted], by simp [rooted]⟩
  | cons c more =>
      refine segmented_resolve (by simp) (fun piece hpiece hslash => ?_) (splitAtAll_ne_nil _)
      exact absurd (forall_mem_splitAtAll _ piece hpiece '/' hslash).1 (by decide)

/-- A path that is written with a slash at its end has an empty segment there. -/
theorem getLast?_rooted {cs : List Char} (h : cs.getLast? = some '/') :
    (rooted cs).getLast? = some "" := by
  have hend : ∀ front : List Char,
      (resolve false [] (splitAtAll (isSlash true) (front ++ ['/']))).getLast? = some "" := by
    intro front
    rw [splitAtAll_append_cons (by decide), splitAtAll, resolve_append_singleton _ _ (by decide),
      List.getLast?_concat]
    rfl
  cases cs with
  | nil => cases h
  | cons c more =>
      rw [rooted]
      by_cases hslash : isSlash true c = true
      · rw [if_pos hslash]
        cases more with
        | nil => rfl
        | cons d more =>
            rw [List.getLast?_cons_cons] at h
            obtain ⟨front, hfront⟩ := List.getLast?_eq_some_iff.mp h
            rw [hfront]
            exact hend front
      · rw [if_neg hslash]
        obtain ⟨front, hfront⟩ := List.getLast?_eq_some_iff.mp h
        rw [hfront]
        exact hend front

theorem eq_nil_of_withQuery {u : Url} {rest : List Char}
    (hmark : ∀ c, rest.head? = some c → c = '?' ∨ c = '#') (hquery : (withQuery u rest).query = none)
    (hfragment : (withQuery u rest).fragment = none) : rest = [] := by
  cases rest with
  | nil => rfl
  | cons c rest =>
      rcases hmark c rfl with rfl | rfl
      · cases hquery
      · cases hfragment

/-- Without a query and a fragment, the path is all that there is. -/
theorem spanPath_of_none {u : Url} {cs : List Char} (hquery : (withPath u cs).query = none)
    (hfragment : (withPath u cs).fragment = none) : (spanPath cs).1 = cs := by
  have hrest : (spanPath cs).2 = [] := by
    refine eq_nil_of_withQuery ?_ hquery hfragment
    intro c hc
    have hmark := List.head?_dropWhile_not (fun c => c ≠ '?' && c ≠ '#') cs
    unfold spanPath at hc
    dsimp only at hc
    rw [hc] at hmark
    simpa [or_iff_not_imp_left] using hmark
  have hwhole : (spanPath cs).1 ++ (spanPath cs).2 = cs := List.takeWhile_append_dropWhile
  rwa [hrest, List.append_nil] at hwhole

/-- The path of a URL of the web that was read has segments, and the last is empty if the text ends in
a slash and there is no query and no fragment. -/
theorem path_of_parse {s : String} {url : Url} (h : parse s = .ok url)
    (hhttp : url.scheme = "http" ∨ url.scheme = "https") :
    ∃ path, url.path = .segments path ∧ Segmented path ∧
      ((significant s).getLast? = some '/' → url.query = none → url.fragment = none →
        path.getLast? = some "") := by
  obtain ⟨u, cs, hscheme, rfl, hlast⟩ := exists_withPath_of_parse h hhttp
  refine ⟨_, withPath_eq hscheme cs, segmented_rooted _, fun hs hquery hfragment => ?_⟩
  rw [spanPath_of_none hquery hfragment]
  exact getLast?_rooted (hlast hs)

theorem getLast?_significant {s : String} (h : s.toList.getLast? = some '/') :
    (significant s).getLast? = some '/' := by
  have hfront := getLast?_dropWhile (p := isTrimmed) h (by decide)
  obtain ⟨kept, hkept⟩ := List.getLast?_eq_some_iff.mp hfront
  have hback : (s.toList.dropWhile isTrimmed).reverse.dropWhile isTrimmed
      = (s.toList.dropWhile isTrimmed).reverse := by
    rw [hkept, List.reverse_append, List.reverse_singleton, List.singleton_append,
      List.dropWhile_cons_of_neg (by decide)]
  rw [significant, hback, List.reverse_reverse, hkept, List.filter_append]
  exact List.getLast?_concat

theorem getLast?_withSlash (raw : String) :
    (Settings.withSlash raw).toList.getLast? = some '/' := by
  unfold Settings.withSlash
  split
  · assumption
  · rw [String.toList_append]
    exact List.getLast?_concat

end Rooted

end ReportGateway.Url
