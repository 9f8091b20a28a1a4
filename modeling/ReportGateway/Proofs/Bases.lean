import Mathlib.Tactic.MkIffOfInductiveProp
import ReportGateway.Proofs.Forwarding
import ReportGateway.Proofs.Reading

/-!
Words under a base. Settings name services by base URLs, and there are two ways from a base to what it
holds: a template pushes segments onto the path of the base (`resource?_of_words`), and a path that is
passed on is read relative to the base, which drops the last segment of the base path
(`target?_of_words`). The two meet where that segment is empty, so settings put a slash at the end of
a base. They put it at the end of the text: with a query or a fragment it does not get into the path,
and the ways part. They part as well where the base path is nothing but two slashes, since a template
pushes onto the root then (`accepted_base_carries_words`).
-/

namespace ReportGateway.Url

section Words

/-- A character of a word: a letter, a digit, a hyphen or an underscore. -/
def isWordChar (c : Char) : Bool := c.isAlphanum || c = '-' || c = '_'

/-- A segment made of such characters, with at least one. -/
@[mk_iff]
structure IsWord (s : String) : Prop where
  ne_empty : s ≠ ""
  chars : ∀ c ∈ s.toList, isWordChar c = true

instance (s : String) : Decidable (IsWord s) :=
  decidable_of_iff (s ≠ "" ∧ s.toList.all isWordChar = true) (by rw [isWord_iff, List.all_eq_true])

/-- A character that nothing which reads or writes a path takes notice of. -/
@[mk_iff]
structure Inert (c : Char) : Prop where
  escaped : Percent.path c = false ∧ Percent.specialSegment c = false
  passed : isIgnored c = false ∧ isTrimmed c = false
  divides : c ≠ '/' ∧ c ≠ '\\'
  ends : c ≠ '?' ∧ c ≠ '#'
  opens : c ≠ '\x7b'
  dots : c.toLower ≠ '.' ∧ c.toLower ≠ '%'

instance (c : Char) : Decidable (Inert c) := decidable_of_iff _ (inert_iff c).symm

theorem toNat_lt_of_isWordChar {c : Char} (h : isWordChar c = true) : c.toNat < 0x80 := by
  delta isWordChar Char.isAlphanum Char.isAlpha Char.isUpper Char.isLower Char.isDigit at h
  simp only [Bool.or_eq_true, Bool.and_eq_true, decide_eq_true_eq, ge_iff_le,
    UInt32.le_iff_toNat_le] at h
  have hval : c.toNat = c.val.toNat := rfl
  rcases h with (h | rfl) | rfl
  · simp at h
    omega
  · decide
  · decide

theorem inert_of_isWordChar {c : Char} (h : isWordChar c = true) : Inert c := by
  have hall : ∀ n < 0x80, isWordChar (Char.ofNat n) = true → Inert (Char.ofNat n) := by
    decide +kernel
  have hc := hall c.toNat (toNat_lt_of_isWordChar h)
  rw [Char.ofNat_toNat] at hc
  exact hc h

/-- A text in ASCII of which nothing is escaped is written as it is. -/
theorem encode_eq_self {escaped : Percent.Class} {s : String}
    (h : ∀ c ∈ s.toList, c.toNat < 0x80 ∧ escaped c = false) :
    Percent.encode escaped s.toList = s := by
  have hsame : s.toList.flatMap (Percent.encodeChar escaped) = s.toList.flatMap ([·]) := by
    refine List.flatMap_congr fun c hc => ?_
    obtain ⟨hascii, hkept⟩ := h c hc
    rw [Percent.encodeChar, if_pos ⟨hascii, by simp [hkept]⟩]
  rw [Percent.encode, hsame, List.flatMap_singleton', String.ofList_toList]

namespace IsWord

variable {s : String} (h : IsWord s)

include h

theorem inert {c : Char} (hc : c ∈ s.toList) : Inert c := inert_of_isWordChar (h.chars c hc)

theorem encode_path : Percent.encode Percent.path s.toList = s :=
  encode_eq_self fun c hc => ⟨toNat_lt_of_isWordChar (h.chars c hc), (h.inert hc).escaped.1⟩

theorem encode_segment : Percent.encode Percent.specialSegment s.toList = s :=
  encode_eq_self fun c hc => ⟨toNat_lt_of_isWordChar (h.chars c hc), (h.inert hc).escaped.2⟩

theorem clean : Proxy.Clean s := fun _ hc =>
  ⟨(h.inert hc).divides.1, (h.inert hc).ends.1, (h.inert hc).ends.2, (h.inert hc).passed.1⟩

theorem toList_ne_nil : s.toList ≠ [] := mt String.toList_eq_nil_iff.mp h.ne_empty

theorem exists_cons : ∃ c cs, s.toList = c :: cs ∧ Inert c := by
  obtain ⟨c, cs, hcons⟩ := List.exists_cons_of_ne_nil h.toList_ne_nil
  exact ⟨c, cs, hcons, h.inert (by rw [hcons]; exact List.mem_cons_self)⟩

theorem exists_concat : ∃ cs c, s.toList = cs ++ [c] ∧ Inert c := by
  have hlast := (List.dropLast_append_getLast h.toList_ne_nil).symm
  exact ⟨_, _, hlast, h.inert (List.getLast_mem h.toList_ne_nil)⟩

theorem not_isDots : ¬IsDots s.toList := by
  obtain ⟨c, cs, hcons, hc⟩ := h.exists_cons
  obtain ⟨hdot, hpercent⟩ := hc.dots
  rw [hcons, IsDots, isDoubleDot, isSingleDot, List.map_cons]
  simp [← String.toList_inj, hdot, hpercent]

theorem kept : Kept s :=
  ⟨fun hmem => (h.inert hmem).divides.2 rfl, h.not_isDots⟩

theorem plain : Plain s := by
  refine ⟨?_, ?_, fun c hc => (h.inert hc).passed.1⟩
  all_goals
    rintro rfl
    exact h.not_isDots (by decide)

end IsWord

end Words

section Naming

variable {texts : List String} (hne : texts ≠ []) (hwords : ∀ s ∈ texts, IsWord s)

include hwords

/-- Words are not cut. -/
theorem flatMap_splitAtAll_of_words {p : Char → Bool} (hp : ∀ c, Inert c → p c = false) :
    (texts.flatMap fun s => splitAtAll p s.toList) = texts.map String.toList := by
  rw [List.map_eq_flatMap]
  refine List.flatMap_congr fun s hs => ?_
  exact splitAtAll_of_forall fun c hc => hp c ((hwords s hs).inert hc)

include hne in
/-- Words between slashes make a template without open parts. -/
theorem ofText_intercalate : Template.ofText ("/".intercalate texts) = texts.map .fixed := by
  rw [Template.ofText, Gateway.splitAtAll_intercalate (by decide) hne,
    flatMap_splitAtAll_of_words hwords fun c hc => by simpa using hc.divides.1,
    List.filter_eq_self.mpr, List.map_map]
  · refine List.map_congr_left fun s hs => ?_
    obtain ⟨c, cs, hcons, hc⟩ := (hwords s hs).exists_cons
    rw [Function.comp_apply, if_neg, String.ofList_toList]
    rintro ⟨hopen, -⟩
    rw [hcons] at hopen
    exact hc.opens (Option.some.inj hopen)
  · intro cs hcs
    obtain ⟨s, hs, rfl⟩ := List.mem_map.mp hcs
    simpa using (hwords s hs).ne_empty

omit hwords in
theorem fill?_fixed (texts : List String) : Template.fill? (texts.map .fixed) [] = some texts := by
  induction texts with
  | nil => rfl
  | cons s texts ih =>
      rw [List.map_cons, Template.fill?, ih]
      rfl

include hne in
/-- Words that are pushed under a path follow it as they are. -/
theorem foldl_pushSegment_of_words {scheme : String} (hhttp : scheme = "http" ∨ scheme = "https")
    (path : List String) :
    texts.foldl (pushSegment scheme) path = (if path = [""] then [] else path) ++ texts := by
  obtain ⟨first, more, rfl⟩ := List.exists_cons_of_ne_nil hne
  rw [List.forall_mem_cons] at hwords
  have hsame : more.map (fun s => Percent.encode Percent.specialSegment s.toList) = more :=
    (List.map_congr_left fun s hs => (hwords.2 s hs).encode_segment).trans (List.map_id' more)
  rw [List.foldl_cons, pushSegment_front hhttp hwords.1.plain, hwords.1.encode_segment,
    foldl_pushSegment_of_plain hhttp _ more (by simp) ?_ fun s hs => (hwords.2 s hs).plain, hsame,
    List.append_assoc, List.singleton_append]
  intro hroot
  obtain ⟨-, hempty⟩ := List.append_inj' (hroot.trans (List.nil_append _).symm) rfl
  exact hwords.1.ne_empty (List.singleton_inj.mp hempty)

include hne in
/-- The resource that a template of words names under a base. -/
theorem resource?_of_words {base : Url} (hhttp : base.scheme = "http" ∨ base.scheme = "https")
    {l : List String} (hpath : base.path = .segments l) :
    base.resource? (Template.ofText ("/".intercalate texts)) []
      = some { base with path := .segments (base.stem ++ texts) } := by
  rw [resource?, stem, hpath, ofText_intercalate hne hwords]
  dsimp only
  rw [fill?_fixed, Option.bind_eq_bind, Option.bind_some,
    foldl_pushSegment_of_words hne hwords hhttp]
  rfl

include hne in
/-- Words of a relative path follow what is left of the base as they are. -/
theorem resolve_of_words (done : List String) :
    resolve false done (texts.map String.toList) = done ++ texts := by
  obtain ⟨most, last, rfl⟩ := (List.eq_nil_or_concat' texts).resolve_left hne
  rw [List.forall_mem_append, List.forall_mem_singleton] at hwords
  have hdots : ∀ piece ∈ most.map String.toList, ¬IsDots piece := by
    intro piece hpiece
    obtain ⟨s, hs, rfl⟩ := List.mem_map.mp hpiece
    exact (hwords.1 s hs).not_isDots
  have hsame : (most.map String.toList).map (Percent.encode Percent.path) = most := by
    rw [List.map_map]
    exact (List.map_congr_left fun s hs => (hwords.1 s hs).encode_path).trans (List.map_id' most)
  rw [List.map_append, List.map_singleton, resolve_append_singleton _ _ hwords.2.not_isDots,
    foldl_step_of_not_dots _ _ hdots, hsame, hwords.2.encode_path, List.append_assoc]

include hne in
/-- The place that a path of words is passed on to under a base. -/
theorem target?_of_words {base : Url} (hhttp : base.scheme = "http" ∨ base.scheme = "https")
    {l : List String} (hpath : base.path = .segments l) :
    ∃ url, Proxy.target? base ("/" ++ "/".intercalate texts) none = some url ∧
      url.scheme = base.scheme ∧ url.host = base.host ∧ url.port = base.port ∧
      url.path = .segments (l.dropLast ++ texts) := by
  obtain ⟨most, last, htexts⟩ := (List.eq_nil_or_concat' texts).resolve_left hne
  obtain ⟨front, d, hlast, hd⟩ := (hwords last (by simp [htexts])).exists_concat
  obtain ⟨front, hend⟩ := Proxy.exists_concat_intercalate most hlast
  rw [← htexts] at hend
  obtain ⟨url, hjoin, hscheme, hhost, hport, hurl⟩ := join_relative
    (Proxy.forall_mem_intercalate fun s hs => (hwords s hs).clean) hhttp hpath hend hd.passed.2
  refine ⟨url.setQuery none, ?_, hscheme, hhost, hport, ?_⟩
  · obtain ⟨first, more, rfl⟩ := List.exists_cons_of_ne_nil hne
    have hfirst := hwords first List.mem_cons_self
    exact Proxy.target?_of_join hfirst.ne_empty hfirst.clean.slash_not_mem hjoin none
  · show url.path = _
    rw [hurl, Gateway.splitAtAll_intercalate (by decide) hne,
      flatMap_splitAtAll_of_words hwords fun c hc => by simp [isSlash, hc.divides],
      resolve_of_words hne hwords]

end Naming

section Text

theorem text_append (path more : List String) :
    (Path.segments (path ++ more)).text = (Path.segments path).text ++ (Path.segments more).text := by
  simp [Path.text]

theorem text_of_ne_nil {path : List String} (hne : path ≠ []) :
    (Path.segments path).text = "/" ++ "/".intercalate path := by
  induction path with
  | nil => exact absurd rfl hne
  | cons s path ih =>
      rw [Path.text_cons]
      cases path with
      | nil =>
          rw [String.intercalate_singleton]
          simp [Path.text]
      | cons t path =>
          rw [ih (List.cons_ne_nil t path), String.intercalate_cons_cons]
          simp only [String.append_assoc]

theorem text_eq_slash_iff (path : List String) :
    (Path.segments path).text = "/" ↔ path = [""] := by
  constructor
  · intro htext
    cases path with
    | nil => exact absurd htext (by decide)
    | cons s path =>
        have hlist := congrArg String.toList htext
        rw [Path.text_cons, String.toList_append, String.toList_append] at hlist
        have hrest : s.toList = [] ∧ (Path.segments path).text.toList = [] := by simpa using hlist
        cases path with
        | nil => rw [String.toList_eq_nil_iff.mp hrest.1]
        | cons t path =>
            rw [Path.text_cons, String.toList_append, String.toList_append] at hrest
            simp at hrest
  · rintro rfl
    rfl

/-- A path that is written with a slash at its end. -/
def Path.EndsInSlash (p : Path) : Prop := p.text.toList.getLast? = some '/'

instance (p : Path) : Decidable p.EndsInSlash :=
  inferInstanceAs (Decidable (p.text.toList.getLast? = some '/'))

theorem text_concat (front : List String) (s : String) :
    (Path.segments (front ++ [s])).text = (Path.segments front).text ++ "/" ++ s := by
  rw [text_append, text_of_ne_nil (List.cons_ne_nil s []), String.intercalate_singleton,
    String.append_assoc]

/-- A path of segments ends in a slash if its last segment is empty. -/
theorem endsInSlash_iff (front : List String) {s : String} (hs : '/' ∉ s.toList) :
    (Path.segments (front ++ [s])).EndsInSlash ↔ s = "" := by
  rw [Path.EndsInSlash, text_concat, String.toList_append]
  constructor
  · intro hlast
    by_contra hne
    rw [List.getLast?_append_of_ne_nil _ (mt String.toList_eq_nil_iff.mp hne)] at hlast
    exact hs (List.mem_of_getLast? hlast)
  · rintro rfl
    simp

theorem text_concat_empty_eq_iff (front : List String) :
    (Path.segments (front ++ [""])).text = "//" ↔ front = [""] := by
  have htwo : "//" = "/" ++ "/" := rfl
  rw [text_concat, String.append_empty, htwo, String.append_left_inj, text_eq_slash_iff]

theorem ne_append_append {s : String} (hs : s ≠ "") (t u : String) : t ++ u ≠ t ++ s ++ u := by
  intro hsame
  have hlength := congrArg String.length hsame
  simp only [String.length_append] at hlength
  have hpos : s.length ≠ 0 := by simpa using hs
  omega

end Text

section Bases

variable {base : Url} {front : List String}

/-- Of a base path with a slash at its end the stem is what stands before the slash; a second slash
is not kept where nothing else stands before it. -/
theorem stem_of_concat_empty (hpath : base.path = .segments (front ++ [""])) :
    base.stem = if front = [""] then [] else front := by
  rw [stem, hpath]
  dsimp only
  by_cases hfront : front = []
  · rw [hfront]
    rfl
  · have hend : withoutEmptyEnd (front ++ [""]) = front := by
      rw [withoutEmptyEnd, if_pos ⟨by simpa using hfront, List.getLast?_concat⟩, List.dropLast_concat]
    rw [hend]

theorem stem_of_concat {s : String} (hs : s ≠ "") (hpath : base.path = .segments (front ++ [s])) :
    base.stem = front ++ [s] := by
  have hroot : front ++ [s] ≠ [""] := by
    intro hsame
    obtain ⟨-, hempty⟩ := List.append_inj' (hsame.trans (List.nil_append _).symm) rfl
    exact hs (List.singleton_inj.mp hempty)
  have hend : withoutEmptyEnd (front ++ [s]) = front ++ [s] := by
    rw [withoutEmptyEnd, if_neg (by simp [hs])]
  rw [stem, hpath]
  dsimp only
  rw [hend, if_neg hroot]

theorem text_under {texts : List String} (hne : texts ≠ []) (path : List String) :
    (Path.segments (path ++ texts)).text
      = (Path.segments path).text ++ "/" ++ "/".intercalate texts := by
  rw [text_append, text_of_ne_nil hne, String.append_assoc]

/-- Texts under the stem of a base path and under all but its last segment are the same path, and that
of the texts after the whole base path, as far as the base path ends in a slash. -/
theorem text_under_iff {s : String} (hpath : base.path = .segments (front ++ [s]))
    (hs : '/' ∉ s.toList) {texts : List String} (hne : texts ≠ []) :
    ((Path.segments (base.stem ++ texts)).text = (Path.segments (front ++ texts)).text ↔
        base.path.EndsInSlash ∧ base.path.text ≠ "//") ∧
      ((Path.segments (base.stem ++ texts)).text = base.path.text ++ "/".intercalate texts ↔
        base.path.EndsInSlash ∧ base.path.text ≠ "//") ∧
      ((Path.segments (front ++ texts)).text = base.path.text ++ "/".intercalate texts ↔
        base.path.EndsInSlash) := by
  have hopen : base.path.EndsInSlash ↔ s = "" := by
    rw [hpath]
    exact endsInSlash_iff front hs
  have honce : base.path.EndsInSlash ∧ base.path.text ≠ "//" ↔ s = "" ∧ front ≠ [""] := by
    rw [hopen]
    refine and_congr_right fun hempty => ?_
    rw [hpath, hempty, ne_eq, text_concat_empty_eq_iff]
  rw [honce, hopen, hpath, text_under hne, text_under hne, text_concat]
  by_cases hempty : s = ""
  · rw [stem_of_concat_empty (hempty ▸ hpath), hempty, String.append_empty]
    by_cases hroot : front = [""]
    · rw [if_pos hroot, hroot]
      simp [Path.text]
    · simp [hroot]
  · -- The segment at the end, with a slash or without, is in one of two texts only.
    have hlast := ne_append_append hempty ((Path.segments front).text ++ "/")
      ("/".intercalate texts)
    have hslash := ne_append_append (s := "/") (by decide)
      ((Path.segments front).text ++ "/" ++ s) ("/".intercalate texts)
    have hboth := ne_append_append (s := s ++ "/") (by simp)
      ((Path.segments front).text ++ "/") ("/".intercalate texts)
    rw [← String.append_assoc] at hboth
    rw [stem_of_concat hempty hpath, text_concat]
    simp only [hempty, false_and, iff_false]
    exact ⟨hboth.symm, hslash.symm, hlast⟩

/-- A URL of the scheme, host and port of another. -/
def SameOrigin (u v : Url) : Prop := u.scheme = v.scheme ∧ u.host = v.host ∧ u.port = v.port

/-- How words are named under a base, by a template and by a path that is passed on. Both keep to the
scheme, host and port of the base. They come to the words after the whole base path if that ends in a
slash; the template, only if it is not just two slashes. -/
structure Naming (base : Url) (texts : List String) (made target : Url) : Prop where
  template : base.resource? (Template.ofText ("/".intercalate texts)) [] = some made
  passedOn : Proxy.target? base ("/" ++ "/".intercalate texts) none = some target
  made_origin : made.SameOrigin base
  target_origin : target.SameOrigin base
  same_path : made.path.text = target.path.text ↔
    base.path.EndsInSlash ∧ base.path.text ≠ "//"
  made_path : made.path.text = base.path.text ++ "/".intercalate texts ↔
    base.path.EndsInSlash ∧ base.path.text ≠ "//"
  target_path : target.path.text = base.path.text ++ "/".intercalate texts ↔
    base.path.EndsInSlash

/-- The path of a base that settings accept ends in a slash if there is neither a query nor a fragment.
With one or without, words are named under the base in both ways. -/
theorem accepted_base_carries_words {field raw : String}
    (h : Settings.baseUrl field raw = .ok base) :
    (base.query = none → base.fragment = none → base.path.EndsInSlash) ∧
      ∀ texts, texts ≠ [] → (∀ s ∈ texts, IsWord s) →
        ∃ made target, Naming base texts made target := by
  have hhttp := (Settings.isBase_of_baseUrl h).isHttp
  have hparse : parse (Settings.withSlash raw) = .ok base := by
    rw [Settings.baseUrl] at h
    split at h
    · cases h
    · rename_i hparse
      split at h
      · cases h
        exact hparse
      · cases h
  obtain ⟨path, hpath, hsegmented, hlast⟩ := path_of_parse hparse hhttp
  obtain ⟨front, s, rfl⟩ := (List.eq_nil_or_concat' path).resolve_left hsegmented.ne_nil
  have hs := hsegmented.slash_not_mem s (by simp)
  refine ⟨fun hquery hfragment => ?_, fun texts hne hwords => ?_⟩
  · have hempty := hlast (getLast?_significant (getLast?_withSlash raw)) hquery hfragment
    rw [List.getLast?_concat] at hempty
    rw [hpath, endsInSlash_iff front hs]
    exact Option.some.inj hempty
  · obtain ⟨target, htarget, hscheme, hhost, hport, hplace⟩ :=
      target?_of_words hne hwords hhttp hpath
    rw [List.dropLast_concat] at hplace
    obtain ⟨hsame, hmade, hwhole⟩ := text_under_iff hpath hs hne
    rw [← hplace] at hsame hwhole
    exact ⟨_, target, resource?_of_words hne hwords hhttp hpath, htarget, ⟨rfl, rfl, rfl⟩,
      ⟨hscheme, hhost, hport⟩, hsame, hmade, hwhole⟩

/-- The path of the base that a text is accepted as, and those that two words get under it from a
template and from a path that is passed on. -/
def pathsUnder (raw : String) : Option (String × String × String) := do
  let base ← (Settings.baseUrl "services.aggregator_base_endpoint" raw).toOption
  let made ← base.resource? (Template.ofText "a/b") []
  let target ← Proxy.target? base "/a/b" none
  return (base.path.text, made.path.text, target.path.text)

theorem accepted_api_carries_words :
    ∃ base made target,
      Settings.baseUrl "services.aggregator_base_endpoint" "http://[::1]/api" = .ok base ∧
        Naming base ["a", "b"] made target ∧
        made.path.text = "/api/a/b" ∧ target.path.text = "/api/a/b" := by
  have hparts : (Settings.baseUrl "services.aggregator_base_endpoint"
      "http://[::1]/api").toOption.map (fun base => (base.query, base.fragment, base.path.text))
        = some (none, none, "/api/") := by
    decide +kernel
  have hwords : ∀ s ∈ ["a", "b"], IsWord s := by
    simp only [List.forall_mem_cons]
    exact ⟨by decide, by decide, by simp⟩
  cases hread : Settings.baseUrl "services.aggregator_base_endpoint" "http://[::1]/api" with
  | error e =>
      rw [hread] at hparts
      cases hparts
  | ok base =>
      rw [hread] at hparts
      obtain ⟨hquery, hmore⟩ := Prod.mk.inj (Option.some.inj hparts)
      obtain ⟨hfragment, htext⟩ := Prod.mk.inj hmore
      obtain ⟨hslash, hnaming⟩ := accepted_base_carries_words hread
      obtain ⟨made, target, hnamed⟩ := hnaming ["a", "b"] (by simp) hwords
      have hend := hslash hquery hfragment
      have hwhole : base.path.text ++ "/".intercalate ["a", "b"] = "/api/a/b" := by
        rw [htext]
        decide
      refine ⟨base, made, target, rfl, hnamed, ?_, ?_⟩
      · rw [hnamed.made_path.mpr ⟨hend, by rw [htext]; decide⟩, hwhole]
      · rw [hnamed.target_path.mpr hend, hwhole]

/-- A slash after a query does not end the path, and of a path that does not end in a slash a template
keeps the last segment while a path that is passed on drops it. Of two slashes a template keeps one. -/
theorem query_parts_the_ways :
    pathsUnder "http://[::1]/api?x=1" = some ("/api", "/api/a/b", "/a/b") ∧
      pathsUnder "http://[::1]//" = some ("//", "/a/b", "//a/b") := by
  decide +kernel

end Bases

end ReportGateway.Url
