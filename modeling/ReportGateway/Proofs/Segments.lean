import ReportGateway.Gateway.Routes
import ReportGateway.Proofs.Percent
import ReportGateway.Url.Segments

/-!
What a path names once it is split at its slashes and its escapes are taken for their bytes. A
`Plain` text that is pushed under a base becomes one segment that stands for exactly its bytes. No
other text does, and none makes up for another: a push adds at most one piece, at the end, so a path
has the pieces that it should have only if every push added its own (`resource?_spec`).
-/

namespace ReportGateway

namespace Gateway

theorem pieces_append_slash (s t : String) : pieces (s ++ "/" ++ t) = pieces s ++ pieces t := by
  have hslash : "/".toList = ['/'] := rfl
  rw [pieces, String.toList_append, String.toList_append, hslash, List.append_assoc,
    List.singleton_append, List.splitOn_append_cons_self, List.map_append]
  rfl

theorem pieces_of_not_mem {s : String} (h : '/' ∉ s.toList) : pieces s = [s] := by
  rw [pieces, List.splitOn_eq_singleton h, List.map_singleton, String.ofList_toList]

theorem pieces_empty : pieces "" = [""] := pieces_of_not_mem (by simp)

theorem pieces_ne_nil (s : String) : pieces s ≠ [] := by
  rw [pieces, ne_eq, List.map_eq_nil_iff]
  exact List.splitOn_ne_nil _ _

end Gateway

namespace Url

open Gateway (pieces pieces_append_slash pieces_of_not_mem pieces_empty pieces_ne_nil)

theorem Path.text_cons (s : String) (path : List String) :
    (Path.segments (s :: path)).text = "/" ++ s ++ (Path.segments path).text := by
  simp [Path.text]

theorem pieces_append_text (s : String) (path : List String) :
    pieces (s ++ (Path.segments path).text) = pieces s ++ path.flatMap pieces := by
  induction path generalizing s with
  | nil => simp [Path.text]
  | cons t path ih =>
      rw [Path.text_cons, List.flatMap_cons, ← ih t, ← pieces_append_slash]
      congr 1
      simp [String.append_assoc]

/-- What a path names: its pieces between slashes, with escapes taken for their bytes. -/
def Path.decoded (p : Path) : List (List UInt8) := ((pieces p.text).drop 1).map Percent.decode

theorem Path.decoded_segments (path : List String) :
    (Path.segments path).decoded = (path.flatMap pieces).map Percent.decode := by
  have hpieces := pieces_append_text "" path
  rw [String.empty_append, pieces_empty] at hpieces
  rw [Path.decoded, hpieces]
  rfl

/-- A text that becomes a segment of its own under a base, and the one that it should. -/
def Plain (s : String) : Prop := s ≠ "." ∧ s ≠ ".." ∧ ∀ c ∈ s.toList, isIgnored c = false

-- Spelt out with `all`: a search for an instance may decide the quantifier over all characters.
instance (s : String) : Decidable (Plain s) :=
  decidable_of_iff (s ≠ "." ∧ s ≠ ".." ∧ s.toList.all (!isIgnored ·) = true) (by simp [Plain])

theorem Plain.filter_eq {s : String} (h : Plain s) : s.toList.filter (!isIgnored ·) = s.toList := by
  rw [List.filter_eq_self]
  intro c hc
  rw [h.2.2 c hc]
  rfl

section Escaped

/-- The characters at which something that reads a URL of the web may end a segment. -/
def delimiters : List Char := ['/', '\\', '?', '#']

theorem delimiter_cases {d : Char} (hd : d ∈ delimiters) :
    d = '/' ∨ d = '\\' ∨ d = '?' ∨ d = '#' := by
  simpa [delimiters] using hd

theorem ne_escapeDigit_of_delimiter {d : Char} (hd : d ∈ delimiters) :
    d ≠ '%' ∧ ∀ n < 16, d ≠ Percent.escapeDigit n := by
  rcases delimiter_cases hd with rfl | rfl | rfl | rfl <;> decide

theorem delimiter_not_mem_escape {d : Char} (hd : d ∈ delimiters) (b : UInt8) :
    d ∉ Percent.escape b := by
  have hb : b.toNat < 256 := b.toNat_lt
  obtain ⟨hpercent, hdigit⟩ := ne_escapeDigit_of_delimiter hd
  have hhigh := hdigit (b.toNat / 16) (by omega)
  have hlow := hdigit (b.toNat % 16) (by omega)
  simp [Percent.escape, hpercent, hhigh, hlow]

/-- Encoding leaves no delimiter that the class has, or that was not there to begin with. -/
theorem delimiter_not_mem_encode {d : Char} (hd : d ∈ delimiters) {escaped : Percent.Class}
    {cs : List Char} (h : d ∈ cs → escaped d = true) : d ∉ (Percent.encode escaped cs).toList := by
  rw [Percent.encode, String.toList_ofList, List.mem_flatMap]
  rintro ⟨c, hmem, hc⟩
  rw [Percent.encodeChar] at hc
  split at hc
  · rename_i hplain
    rw [List.mem_singleton] at hc
    rw [← hc] at hplain hmem
    rw [h hmem] at hplain
    exact absurd hplain.2 (by decide)
  · obtain ⟨b, -, hb⟩ := List.mem_flatMap.mp hc
    exact delimiter_not_mem_escape hd b hb

theorem slash_not_mem_encode {escaped : Percent.Class} {cs : List Char}
    (h : '/' ∈ cs → escaped '/' = true) : '/' ∉ (Percent.encode escaped cs).toList :=
  delimiter_not_mem_encode (by decide) h

end Escaped

section Push

variable {scheme : String} (hhttp : scheme = "http" ∨ scheme = "https")

/-- The pieces of a path made of segments. -/
def weight (path : List String) : Nat := (path.flatMap pieces).length

theorem weight_append (path path' : List String) :
    weight (path ++ path') = weight path + weight path' := by
  rw [weight, List.flatMap_append, List.length_append]
  rfl

theorem weight_singleton {x : String} (h : '/' ∉ x.toList) : weight [x] = 1 := by
  simp [weight, pieces_of_not_mem h]

theorem weight_dropLast_lt {path : List String} (h : path ≠ []) :
    weight path.dropLast < weight path := by
  have hsplit := List.dropLast_append_getLast h
  have hlast : 0 < weight [path.getLast h] := by
    simp [weight, List.length_pos_iff, pieces_ne_nil]
  have hsum := weight_append path.dropLast [path.getLast h]
  rw [hsplit] at hsum
  omega

/-- Going up leaves a path as it is or takes its last segment away. -/
theorem parent_cases (path : List String) :
    parent path = path ∨ path ≠ [] ∧ parent path = path.dropLast := by
  rw [parent]
  split
  · exact Or.inl rfl
  · cases path with
    | nil => exact Or.inl rfl
    | cons s path => exact Or.inr ⟨List.cons_ne_nil _ _, rfl⟩

include hhttp

theorem pushSegment_eq (path : List String) (s : String) :
    pushSegment scheme path s =
      if s = "." ∨ s = ".." then path
      else
        let cs := s.toList.filter (!isIgnored ·)
        let front := if path = [""] then [] else path
        if cs = ['.', '.'] then parent front ++ [""]
        else if cs = ['.'] then front ++ [""]
        else front ++ [Percent.encode Percent.specialSegment cs] := by
  rcases hhttp with rfl | rfl <;> simp [pushSegment, segmentText, isSpecial]

/-- A plain text becomes one segment at the end. What is empty at the root gives way to it. -/
theorem pushSegment_front {path : List String} {s : String} (hplain : Plain s) :
    pushSegment scheme path s = (if path = [""] then [] else path)
      ++ [Percent.encode Percent.specialSegment s.toList] := by
  have hdots : s.toList ≠ ['.', '.'] := fun h => hplain.2.1 (String.toList_inj.mp h)
  have hdot : s.toList ≠ ['.'] := fun h => hplain.1 (String.toList_inj.mp h)
  rw [pushSegment_eq hhttp, if_neg (by simp [hplain.1, hplain.2.1])]
  simp only [hplain.filter_eq, if_neg hdots, if_neg hdot]

theorem pushSegment_of_plain {path : List String} {s : String} (hplain : Plain s)
    (hpath : path ≠ [""]) :
    pushSegment scheme path s = path ++ [Percent.encode Percent.specialSegment s.toList] := by
  rw [pushSegment_front hhttp hplain, if_neg hpath]

/-- A push on the empty path of the root starts over, so one piece takes the place of another. -/
theorem weight_pushSegment_root (s : String) : weight (pushSegment scheme [""] s) ≤ weight [""] := by
  have hempty : weight [""] = 1 := weight_singleton (by simp)
  have hup : parent [] = [] := rfl
  rw [pushSegment_eq hhttp]
  split
  · exact Nat.le_refl _
  · dsimp only
    rw [if_pos rfl, hup, List.nil_append, hempty]
    split
    · exact Nat.le_of_eq hempty
    · split
      · exact Nat.le_of_eq hempty
      · exact Nat.le_of_eq (weight_singleton (slash_not_mem_encode fun _ => by decide))

omit hhttp in
/-- A text that comes to dots only once something in it is passed over is neither empty nor plain. -/
theorem decode_empty_iff_plain {s : String} (hdotted : ¬(s = "." ∨ s = ".."))
    (hdots : s.toList.filter (!isIgnored ·) = ['.', '.'] ∨ s.toList.filter (!isIgnored ·) = ['.']) :
    Percent.decode "" = Utf8.encode s ↔ Plain s := by
  have hdecode : Percent.decode "" = [] := rfl
  rw [hdecode]
  constructor
  · intro hnil
    have hs : s = "" := Utf8.encode_injective hnil.symm
    rw [hs] at hdots
    rcases hdots with h | h <;> cases h
  · intro hplain
    rw [hplain.filter_eq] at hdots
    rcases hdots with h | h
    · exact absurd (Or.inr (String.toList_inj.mp h)) hdotted
    · exact absurd (Or.inl (String.toList_inj.mp h)) hdotted

/-- A push adds one segment at the end, which stands for the text exactly when that is plain; or it
adds nothing to the pieces that were there. -/
theorem pushSegment_cases (path : List String) (s : String) :
    (∃ x, '/' ∉ x.toList ∧ pushSegment scheme path s = path ++ [x] ∧
      (Percent.decode x = Utf8.encode s ↔ Plain s)) ∨
    weight (pushSegment scheme path s) ≤ weight path := by
  by_cases hroot : path = [""]
  · rw [hroot]
    exact Or.inr (weight_pushSegment_root hhttp s)
  rw [pushSegment_eq hhttp]
  by_cases hdotted : s = "." ∨ s = ".."
  · rw [if_pos hdotted]
    exact Or.inr (Nat.le_refl _)
  rw [if_neg hdotted]
  dsimp only
  rw [if_neg hroot]
  by_cases hdots : s.toList.filter (!isIgnored ·) = ['.', '.']
  · rw [if_pos hdots]
    rcases parent_cases path with hsame | ⟨hpath, hup⟩
    · rw [hsame]
      exact Or.inl ⟨"", by simp, rfl, decode_empty_iff_plain hdotted (Or.inl hdots)⟩
    · right
      have hlt := weight_dropLast_lt hpath
      have hempty : weight [""] = 1 := weight_singleton (by simp)
      rw [hup, weight_append, hempty]
      omega
  rw [if_neg hdots]
  by_cases hdot : s.toList.filter (!isIgnored ·) = ['.']
  · rw [if_pos hdot]
    exact Or.inl ⟨"", by simp, rfl, decode_empty_iff_plain hdotted (Or.inr hdot)⟩
  rw [if_neg hdot]
  refine Or.inl ⟨_, slash_not_mem_encode fun _ => by decide, rfl, ?_⟩
  rw [Percent.decode_encode (by decide)]
  rw [not_or] at hdotted
  constructor
  · intro hbytes
    have hfilter := congrArg String.toList (Utf8.encode_injective hbytes)
    rw [String.toList_ofList, List.filter_eq_self] at hfilter
    exact ⟨hdotted.1, hdotted.2, fun c hc => by simpa using hfilter c hc⟩
  · intro hplain
    rw [hplain.filter_eq, String.ofList_toList]

/-- Pushing texts adds at most one piece for each. When it adds that many, each text has its own, and
the pieces stand for the texts exactly when all of these are plain. -/
theorem foldl_pushSegment_cases (path texts : List String) :
    weight (texts.foldl (pushSegment scheme) path) ≤ weight path + texts.length ∧
    (weight (texts.foldl (pushSegment scheme) path) = weight path + texts.length →
      ∃ added, texts.foldl (pushSegment scheme) path = path ++ added ∧
        (∀ x ∈ added, '/' ∉ x.toList) ∧
        (added.map Percent.decode = texts.map Utf8.encode ↔ ∀ s ∈ texts, Plain s)) := by
  induction texts generalizing path with
  | nil => exact ⟨Nat.le_refl _, fun _ => ⟨[], (List.append_nil _).symm, by simp, by simp⟩⟩
  | cons s texts ih =>
      obtain ⟨hle, hall⟩ := ih (pushSegment scheme path s)
      rw [List.foldl_cons, List.length_cons]
      rcases pushSegment_cases hhttp path s with ⟨x, hslash, hpush, hplain⟩ | hless
      · have hone : weight (pushSegment scheme path s) = weight path + 1 := by
          rw [hpush, weight_append, weight_singleton hslash]
        refine ⟨by omega, fun hweight => ?_⟩
        obtain ⟨added, hadded, hslashes, hplains⟩ := hall (by omega)
        refine ⟨x :: added, ?_, ?_, ?_⟩
        · rw [hadded, hpush, List.append_assoc, List.singleton_append]
        · rw [List.forall_mem_cons]
          exact ⟨hslash, hslashes⟩
        · rw [List.map_cons, List.map_cons, List.cons.injEq, List.forall_mem_cons, hplain, hplains]
      · exact ⟨by omega, fun hweight => by omega⟩

theorem foldl_pushSegment_of_plain (path texts : List String) (hpath : path ≠ []) (hroot : path ≠ [""])
    (hplain : ∀ s ∈ texts, Plain s) :
    texts.foldl (pushSegment scheme) path
      = path ++ texts.map fun s => Percent.encode Percent.specialSegment s.toList := by
  induction texts generalizing path with
  | nil => rw [List.foldl_nil, List.map_nil, List.append_nil]
  | cons s texts ih =>
      have hs := hplain s List.mem_cons_self
      rw [List.foldl_cons, pushSegment_of_plain hhttp hs hroot, ih _ (by simp) ?_
        fun t ht => hplain t (List.mem_cons_of_mem _ ht)]
      · rw [List.append_assoc, List.singleton_append, List.map_cons]
      · intro hsame
        have hlength := congrArg List.length hsame
        rw [List.length_append, List.length_singleton, List.length_singleton] at hlength
        exact hpath (List.eq_nil_of_length_eq_zero (by omega))

end Push

theorem length_decoded (path : List String) : (Path.segments path).decoded.length = weight path := by
  rw [Path.decoded_segments, List.length_map, weight]

theorem decoded_append (path path' : List String) :
    (Path.segments (path ++ path')).decoded
      = (Path.segments path).decoded ++ (Path.segments path').decoded := by
  simp only [Path.decoded_segments, List.flatMap_append, List.map_append]

theorem decoded_of_forall {added : List String} (h : ∀ x ∈ added, '/' ∉ x.toList) :
    (Path.segments added).decoded = added.map Percent.decode := by
  rw [Path.decoded_segments]
  congr 1
  induction added with
  | nil => rfl
  | cons x added ih =>
      rw [List.flatMap_cons, pieces_of_not_mem (h x List.mem_cons_self),
        ih fun y hy => h y (List.mem_cons_of_mem _ hy), List.singleton_append]

theorem decode_plainSegment (s : String) :
    Percent.decode (Percent.encode Percent.specialSegment s.toList) = Utf8.encode s := by
  rw [Percent.decode_encode (by decide), String.ofList_toList]

theorem decoded_map_encode (texts : List String) :
    (Path.segments (texts.map fun s => Percent.encode Percent.specialSegment s.toList)).decoded
      = texts.map Utf8.encode := by
  have hslash : ∀ x ∈ texts.map (fun s => Percent.encode Percent.specialSegment s.toList),
      '/' ∉ x.toList := by
    intro x hx
    obtain ⟨s, -, rfl⟩ := List.mem_map.mp hx
    exact slash_not_mem_encode fun _ => by decide
  rw [decoded_of_forall hslash, List.map_map]
  exact List.map_congr_left fun s _ => decode_plainSegment s

/-- Texts pushed under a path, a plain one first, add exactly their bytes, one piece for each, if and
only if all of them are plain. -/
theorem decoded_foldl_iff {scheme : String} (hhttp : scheme = "http" ∨ scheme = "https")
    (path : List String) {first : String} (hfirst : Plain first) (hne : first ≠ "")
    (texts : List String) :
    (Path.segments ((first :: texts).foldl (pushSegment scheme) path)).decoded
        = (Path.segments (if path = [""] then [] else path)).decoded
          ++ (first :: texts).map Utf8.encode ↔
      ∀ s ∈ texts, Plain s := by
  rw [List.foldl_cons, pushSegment_front hhttp hfirst]
  generalize (if path = [""] then [] else path) = front
  have hhead : (Path.segments [Percent.encode Percent.specialSegment first.toList]).decoded
      = [Utf8.encode first] := decoded_map_encode [first]
  have hstart : (Path.segments (front ++ [Percent.encode Percent.specialSegment first.toList])).decoded
      = (Path.segments front).decoded ++ [Utf8.encode first] := by
    rw [decoded_append, hhead]
  have hwhole : (Path.segments front).decoded ++ (first :: texts).map Utf8.encode
      = (Path.segments (front ++ [Percent.encode Percent.specialSegment first.toList])).decoded
        ++ texts.map Utf8.encode := by
    rw [hstart, List.map_cons, List.append_assoc, List.singleton_append]
  rw [hwhole]
  constructor
  · intro hdecoded
    obtain ⟨-, hadds⟩ := foldl_pushSegment_cases hhttp
      (front ++ [Percent.encode Percent.specialSegment first.toList]) texts
    have hweight := congrArg List.length hdecoded
    rw [List.length_append, length_decoded, length_decoded, List.length_map] at hweight
    obtain ⟨added, hadded, hslash, hplains⟩ := hadds hweight
    rw [hadded, decoded_append, decoded_of_forall hslash, List.append_cancel_left_eq] at hdecoded
    exact hplains.mp hdecoded
  · intro hplain
    have hroot : front ++ [Percent.encode Percent.specialSegment first.toList] ≠ [""] := by
      intro hsame
      obtain ⟨-, hempty⟩ := List.append_inj' (hsame.trans (List.nil_append _).symm) rfl
      have hbytes := decode_plainSegment first
      rw [List.singleton_inj.mp hempty] at hbytes
      exact hne (Utf8.encode_injective hbytes.symm)
    rw [foldl_pushSegment_of_plain hhttp _ texts (by simp) hroot hplain, decoded_append,
      decoded_map_encode]

/-- The segments of a base under which resources are named: those of its path without an empty one
at the end. Of a path that comes to a single empty segment nothing is left. -/
def stem (base : Url) : List String :=
  match base.path with
  | .bare _ => []
  | .segments path => if withoutEmptyEnd path = [""] then [] else withoutEmptyEnd path

/-- A base path names what its stem names, and at most two empty pieces after that. -/
theorem decoded_eq_stem {base : Url} (h : base.hasSegments = true) :
    ∃ n ≤ 2, base.path.decoded = (Path.segments base.stem).decoded ++ List.replicate n [] := by
  have hempty : (Path.segments [""]).decoded = [[]] := by decide
  cases hpath : base.path with
  | bare text =>
      rw [hasSegments, hpath] at h
      cases h
  | segments path =>
      rw [stem, hpath]
      dsimp only
      have hend : ∃ n ≤ 1, (Path.segments path).decoded
          = (Path.segments (withoutEmptyEnd path)).decoded ++ List.replicate n [] := by
        rw [withoutEmptyEnd]
        split
        · rename_i hlast
          obtain ⟨front, rfl⟩ := List.getLast?_eq_some_iff.mp hlast.2
          refine ⟨1, Nat.le_refl 1, ?_⟩
          rw [List.dropLast_concat, decoded_append, hempty]
          rfl
        · exact ⟨0, Nat.zero_le 1, (List.append_nil _).symm⟩
      obtain ⟨n, hn, hdecoded⟩ := hend
      by_cases hroot : withoutEmptyEnd path = [""]
      · refine ⟨n + 1, by omega, ?_⟩
        rw [if_pos hroot, hdecoded, hroot, hempty, List.replicate_succ]
        rfl
      · refine ⟨n, by omega, ?_⟩
        rw [if_neg hroot, hdecoded]

/-- The URL of a resource is the base but for its path. That path names the parts of the filled
template under the stem of the base if and only if all of them are plain. -/
theorem resource?_spec {base url : Url} (hhttp : base.scheme = "http" ∨ base.scheme = "https")
    {t : Template} {params : List String} (hurl : base.resource? t params = some url)
    {first : String} {texts : List String} (hfill : t.fill? params = some (first :: texts))
    (hfirst : Plain first) (hne : first ≠ "") :
    url = { base with path := url.path } ∧
      (url.path.decoded
          = (Path.segments base.stem).decoded ++ (first :: texts).map Utf8.encode ↔
        ∀ s ∈ texts, Plain s) := by
  rw [resource?] at hurl
  cases hpath : base.path with
  | bare text =>
      rw [hpath] at hurl
      cases hurl
  | segments path =>
      rw [hpath, hfill] at hurl
      cases hurl
      rw [stem, hpath]
      exact ⟨rfl, decoded_foldl_iff hhttp (withoutEmptyEnd path) hfirst hne texts⟩

end Url

end ReportGateway
