/-
Where the requests to a builder go.

An endpoint can be a URL with a path of its own.  The requests to an engine go to
just this URL, but those to a builder go to the paths of its API at the root of the
host, as references that start with a slash are resolved: nothing of the path of
the endpoint is left.

* `Url.refer` — what such a reference leads to.  The paths of the API are plain, so
  normalising leaves them alone (`Url.normalizePath_of_plain`, `BuilderCall.url_sent`).
* `Url.IsBelow` — where the requests would have to go to stay under the endpoint.
* `located_at_root` — they stay under the endpoint exactly if its path is the root, so
  an endpoint under a prefix gets none of them where it is (`not_below_endpoint`).
-/
import ExecutionLink.Engine
import ExecutionLink.Proofs.Builder.Wire
import ExecutionLink.Proofs.Endpoint
import Mathlib.Data.List.TakeDrop

namespace ExecutionLink

namespace Url

/-! ### Plain paths -/

/-- Characters that stand for themselves wherever they are in a path. -/
def isPlain (c : Char) : Bool :=
  !(c = '\\' || c = '.' || c = '%' || c = '?' || c = '#' || isEncodedInPath c)

/-- What a reference that starts with a single slash leads to. -/
def refer (base : Url) (reference : String) : Url :=
  let (path, rest) := reference.toList.span fun c => c ≠ '?' ∧ c ≠ '#'
  { base with path := normalizePath path, query := queryOf rest }

theorem ne_of_isPlain {c d : Char} (hc : isPlain c) (hd : isPlain d = false) : c ≠ d := by
  rintro rfl
  exact Bool.false_ne_true (hd.symm.trans hc)

theorem isEncodedInPath_of_isPlain {c : Char} (hc : isPlain c) : isEncodedInPath c = false := by
  rw [isPlain, Bool.not_eq_true', Bool.or_eq_false_iff] at hc
  exact hc.2

theorem isPlain_of_isDigit {c : Char} (hc : c.isDigit) : isPlain c := by
  have hall : ∀ n < 58, 48 ≤ n → isPlain (Char.ofNat n) := by decide
  obtain ⟨hlow, hhigh⟩ := Char.isDigit_iff_toNat.mp hc
  have hplain := hall c.toNat (Nat.lt_succ_of_le hhigh) hlow
  rwa [Char.ofNat_toNat] at hplain

theorem plainDots_of_plain {cs : List Char} (h : ∀ c ∈ cs, isPlain c) : plainDots cs = cs := by
  induction cs with
  | nil => rfl
  | cons c cs ih =>
    obtain ⟨hc, hcs⟩ := List.forall_mem_cons.mp h
    have hpercent : c ≠ '%' := ne_of_isPlain hc (by decide)
    rw [plainDots.eq_3 c cs (fun _ hc _ => hpercent hc) (fun _ hc _ => hpercent hc), ih hcs]

theorem encodeWhere_of_plain {cs : List Char} (h : ∀ c ∈ cs, isPlain c) :
    encodeWhere isEncodedInPath cs = cs := by
  have hkept (c : Char) (hc : c ∈ cs) :
      (if isEncodedInPath c then percentEncode c else [c]) = [c] := by
    rw [isEncodedInPath_of_isPlain (h c hc)]
    rfl
  rw [encodeWhere, List.flatMap_congr hkept, List.flatMap_singleton']

/-- Segments without dots are kept, the latest first. -/
theorem resolveSegments_of_plain {segments : List (List Char)}
    (h : ∀ segment ∈ segments, ∀ c ∈ segment, isPlain c) (done : List (List Char)) :
    resolveSegments done segments = segments.reverse ++ done := by
  induction segments generalizing done with
  | nil => rfl
  | cons segment segments ih =>
    obtain ⟨hsegment, hsegments⟩ := List.forall_mem_cons.mp h
    -- a dot segment has a dot in it, so this is neither of the two
    have hdots {dots : List Char} (hmem : '.' ∈ dots) : segment ≠ dots := by
      rintro rfl
      exact absurd (hsegment '.' hmem) (by decide)
    rw [resolveSegments, plainDots_of_plain hsegment, if_neg (hdots (by decide)),
      if_neg (hdots (by decide)), ih hsegments, List.reverse_cons, List.append_assoc]
    rfl

theorem flatMap_slash {segments : List (List Char)} (h : segments ≠ []) :
    segments.flatMap (fun segment => '/' :: segment) = '/' :: ['/'].intercalate segments := by
  induction segments with
  | nil => exact absurd rfl h
  | cons segment segments ih =>
    cases segments with
    | nil => simp
    | cons next segments =>
      rw [List.flatMap_cons, ih (List.cons_ne_nil _ _), List.intercalate_cons_cons]
      simp

/-- A path is what its segments are with a slash in front of each. -/
theorem flatMap_slash_splitOn (cs : List Char) :
    (cs.splitOn '/').flatMap (fun segment => '/' :: segment) = '/' :: cs := by
  rw [flatMap_slash (List.splitOn_ne_nil '/' cs), List.intercalate_splitOn]

/-- A plain path is normalised already. -/
theorem normalizePath_of_plain {cs : List Char} (h : ∀ c ∈ cs, isPlain c) :
    normalizePath ('/' :: cs) = '/' :: cs := by
  have hmap : (cs.map fun c => if c = '\\' then '/' else c) = cs := by
    rw [List.map_congr_left fun c hc => if_neg (ne_of_isPlain (h c hc) (by decide)), List.map_id']
  have hsegments : ∀ segment ∈ cs.splitOn '/', ∀ c ∈ segment, isPlain c := by
    intro segment hsegment c hc
    have hmem : c ∈ '/' :: cs := by
      rw [← flatMap_slash_splitOn]
      exact List.mem_flatMap.mpr ⟨segment, hsegment, List.mem_cons_of_mem '/' hc⟩
    obtain rfl | hmem := List.mem_cons.mp hmem
    · decide
    · exact h c hmem
  have hencode (segment : List Char) (hsegment : segment ∈ cs.splitOn '/') :
      '/' :: encodeWhere isEncodedInPath segment = '/' :: segment := by
    rw [encodeWhere_of_plain (hsegments segment hsegment)]
  show (resolveSegments [] ((cs.map _).splitOn '/')).reverse.flatMap _ = _
  rw [hmap, resolveSegments_of_plain hsegments, List.append_nil, List.reverse_reverse,
    List.flatMap_congr hencode, flatMap_slash_splitOn]

theorem refer_of_plain (base : Url) {path : String} {cs : List Char}
    (hpath : path.toList = '/' :: cs) (h : ∀ c ∈ path.toList, isPlain c) :
    base.refer path = base.withPath path := by
  -- there is neither a query nor a fragment
  have hends : ∀ c ∈ path.toList, decide (c ≠ '?' ∧ c ≠ '#') = true := by
    intro c hc
    exact decide_eq_true
      ⟨ne_of_isPlain (h c hc) (by decide), ne_of_isPlain (h c hc) (by decide)⟩
  rw [hpath] at h
  rw [refer, List.span_eq_takeWhile_dropWhile, List.takeWhile_eq_self_iff.mpr hends,
    List.dropWhile_eq_nil_iff.mpr hends, hpath]
  show { base with path := normalizePath ('/' :: cs), query := none } = base.withPath path
  rw [normalizePath_of_plain (List.forall_mem_cons.mp h).2, withPath, hpath]

/-! ### Paths of endpoints -/

theorem resolveSegments_ne_nil {segments : List (List Char)} (h : segments ≠ [])
    (done : List (List Char)) : resolveSegments done segments ≠ [] := by
  induction segments generalizing done with
  | nil => exact absurd rfl h
  | cons segment segments ih =>
    rw [resolveSegments]
    cases segments with
    -- the last segment leaves one in any case, an empty one if it is a dot segment
    | nil => split <;> [skip; split] <;> exact List.cons_ne_nil _ _
    | cons next segments => split <;> [skip; split] <;> exact ih (List.cons_ne_nil _ _) _

theorem normalizePath_ne_nil (cs : List Char) : normalizePath cs ≠ [] := by
  unfold normalizePath
  intro h
  rw [List.flatMap_eq_nil_iff] at h
  obtain ⟨segment, hsegment⟩ := List.exists_mem_of_ne_nil _
    (resolveSegments_ne_nil (List.splitOn_ne_nil '/' _) [])
  exact List.cons_ne_nil _ _ (h segment (List.mem_reverse.mpr hsegment))

theorem path_ne_nil_of_parse {text : String} {url : Url} (h : parse text = .ok url)
    (hscheme : url.scheme = "http" ∨ url.scheme = "https") : url.path ≠ [] := by
  -- the other kinds of URLs have other schemes
  have hauthority {scheme : String} (h : scheme = "http" ∨ scheme = "https") :
      kindOf scheme ≠ .file ∧ kindOf scheme ≠ .other := by
    rcases h with rfl | rfl
    · decide
    · decide
  unfold parse at h
  split at h
  next => cases h
  next scheme rest _ =>
    split at h
    next usual _ =>
      obtain ⟨⟨host, port, rest⟩, -, h⟩ := Json.bind_eq_ok.mp h
      cases h
      exact normalizePath_ne_nil _
    next hkind =>
      obtain ⟨host, -, h⟩ := Json.bind_eq_ok.mp h
      cases h
      exact absurd hkind (hauthority hscheme).1
    next hkind =>
      split at h
      next rest =>
        obtain ⟨⟨host, port, rest⟩, -, h⟩ := Json.bind_eq_ok.mp h
        cases h
        exact absurd hkind (hauthority hscheme).2
      next =>
        cases h
        exact absurd hkind (hauthority hscheme).2

/-- The path below which the paths of an API stand: the path of the URL without the slash
at its end. -/
def base (url : Url) : List Char :=
  if url.path.getLast? = some '/' then url.path.dropLast else url.path

/-- The URL is at the path of an API below an endpoint. -/
structure IsBelow (located endpoint : Url) (path : String) : Prop where
  scheme : located.scheme = endpoint.scheme
  host : located.host = endpoint.host
  port : located.port = endpoint.port
  path : located.path = endpoint.base ++ path.toList

theorem base_eq_nil_iff {url : Url} (h : url.path ≠ []) : url.base = [] ↔ url.path = ['/'] := by
  rw [base]
  split
  next hlast =>
    rw [List.getLast?_eq_some_iff] at hlast
    obtain ⟨front, hfront⟩ := hlast
    rw [hfront, List.dropLast_concat]
    simp
  next hlast =>
    refine iff_of_false h ?_
    intro hroot
    exact hlast (by rw [hroot]; rfl)

theorem isBelow_withPath_iff {url : Url} (h : url.path ≠ []) {path : String} :
    (url.withPath path).IsBelow url path ↔ url.path = ['/'] := by
  rw [← base_eq_nil_iff h]
  constructor
  · intro hbelow
    exact List.append_left_eq_self.mp hbelow.path.symm
  · intro hbase
    exact ⟨rfl, rfl, rfl, by rw [hbase]; rfl⟩

end Url

theorem Connection.path_ne_nil_of_resolve {endpoint : Option String} {shown : String} {url : Url}
    (h : resolve endpoint = .ok (shown, some url)) : url.path ≠ [] := by
  cases hmode : EndpointMode.ofEndpoint endpoint with
  | stub =>
    rw [resolve_of_stub hmode] at h
    cases h
  | live =>
    cases endpoint with
    | none => cases hmode
    | some text =>
      rw [resolve_of_live hmode, Json.map_eq_ok] at h
      obtain ⟨parsed, hparsed, ⟨⟩⟩ := h
      unfold parseUrl at hparsed
      split at hparsed
      next => cases hparsed
      next hparse =>
        split at hparsed
        next hscheme =>
          cases hparsed
          exact Url.path_ne_nil_of_parse hparse hscheme
        next => cases hparsed

namespace BuilderCall

/-! ### The paths of the API -/

theorem isPlain_path (c : BuilderCall) : ∀ x ∈ c.request.path.toList, Url.isPlain x := by
  have hfixed (path : String) (h : path.toList.all Url.isPlain = true) :
      ∀ x ∈ path.toList, Url.isPlain x := List.all_eq_true.mp h
  cases c with
  | status => exact hfixed "/eth/v1/builder/status" rfl
  | registerValidators slot registrations => exact hfixed "/eth/v1/builder/validators" rfl
  | getPayload block => exact hfixed "/eth/v1/builder/blinded_blocks" rfl
  | getHeader slot pubkey parentHash =>
    show ∀ x ∈ (headerPath slot parentHash pubkey).toList, _
    rw [headerPath, String.toList_intercalate]
    simp only [List.map_cons, List.map_nil, List.intercalate_cons_cons, List.intercalate_singleton,
      List.forall_mem_append]
    have hslash : ∀ x ∈ "/".toList, Url.isPlain x := hfixed "/" rfl
    have hhex {n : Nat} (b : FixedBytes n) : ∀ x ∈ b.hex.toList, Url.isPlain x :=
      b.forall_mem_hex (by decide) (by decide)
    exact ⟨⟨hfixed "/eth/v1/builder/header" rfl, hslash⟩,
      ⟨fun x hx => Url.isPlain_of_isDigit (Text.Natural.isDigit_of_mem_render hx), hslash⟩,
      ⟨hhex parentHash, hslash⟩, hhex pubkey⟩

/-- All paths of the API start alike. -/
theorem prefix_path (c : BuilderCall) : "/eth/v1/builder/".toList <+: c.request.path.toList := by
  have hfixed (path : String) (h : "/eth/v1/builder/".toList.isPrefixOf path.toList = true) :
      "/eth/v1/builder/".toList <+: path.toList := List.isPrefixOf_iff_prefix.mp h
  cases c with
  | status => exact hfixed "/eth/v1/builder/status" rfl
  | registerValidators slot registrations => exact hfixed "/eth/v1/builder/validators" rfl
  | getPayload block => exact hfixed "/eth/v1/builder/blinded_blocks" rfl
  | getHeader slot pubkey parentHash =>
    show _ <+: (headerPath slot parentHash pubkey).toList
    rw [headerPath, String.toList_intercalate, List.map_cons, List.map_cons,
      List.intercalate_cons_cons, List.append_assoc]
    exact (hfixed "/eth/v1/builder/header" rfl).trans (List.prefix_append _ _)

/-- A request goes where the path of its call leads to. -/
theorem url_sent (url : Url) (c : BuilderCall) : (sent url c).url = url.refer c.request.path := by
  obtain ⟨behind, hpath⟩ := c.prefix_path
  exact (Url.refer_of_plain url hpath.symm c.isPlain_path).symm

/-! ### The main result -/

/-- For each live endpoint the requests of all calls go to its scheme, host and port, to a
path of the API that starts at the root.  This path stands below the one of the
endpoint exactly if the endpoint has no path of its own, and then it does for every
call.  The requests to an engine go to the endpoint itself. -/
theorem located_at_root {endpoint : Option String} {shown : String} {url : Url}
    (h : Connection.resolve endpoint = .ok (shown, some url)) :
    (∀ c, (sent url c).url = url.refer c.request.path ∧ (sent url c).target = c.request.path ∧
      "/eth/v1/builder/".toList <+: c.request.path.toList) ∧
    (∀ c, (sent url c).url.scheme = url.scheme ∧ (sent url c).url.host = url.host ∧
      (sent url c).url.port = url.port) ∧
    (∀ c, (sent url c).url.IsBelow url c.request.path ↔ url.path = ['/']) ∧
    ∀ id, (Engine.sent url id).url = url := by
  refine ⟨fun c => ⟨url_sent url c, target_sent url c, c.prefix_path⟩, fun c => ⟨rfl, rfl, rfl⟩,
    fun c => ?_, fun id => rfl⟩
  exact Url.isBelow_withPath_iff (Connection.path_ne_nil_of_resolve h)

/-- An endpoint under a prefix, and where the requests to its root go. -/
theorem located_at_root_prefix :
    ∃ url, Connection.resolve (some "http://127.0.0.1/prefix") =
        .ok ("http://127.0.0.1/prefix", some url) ∧
      (sent url .status).target = "/eth/v1/builder/status" ∧
      ¬(sent url .status).url.IsBelow url "/eth/v1/builder/status" ∧
      (Engine.sent url 1).target = "/prefix" := by
  have hresolve : Connection.resolve (some "http://127.0.0.1/prefix") =
      .ok ("http://127.0.0.1/prefix",
        some ⟨"http", some (.ipv4 0x7f000001), none, "/prefix".toList, none⟩) := rfl
  obtain ⟨hpath, -, hbelow, hengine⟩ := located_at_root hresolve
  refine ⟨_, hresolve, (hpath .status).2.1, ?_, ?_⟩
  · rw [show "/eth/v1/builder/status" = (request .status).path from rfl, hbelow]
    decide
  · decide

/-- Not all requests of builder calls stay under their endpoint. -/
theorem not_below_endpoint :
    ¬∀ endpoint shown url c, Connection.resolve endpoint = .ok (shown, some url) →
      (sent url c).url.IsBelow url c.request.path := by
  intro h
  have hbelow := h (some "http://127.0.0.1/prefix") "http://127.0.0.1/prefix"
    ⟨"http", some (.ipv4 0x7f000001), none, "/prefix".toList, none⟩ .status rfl
  exact absurd hbelow.path (by decide)

end BuilderCall

end ExecutionLink
