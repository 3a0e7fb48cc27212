import Mathlib.Data.List.TakeWhile
import Sandboxes.Proofs.Net.Url

/-!
# Addresses on one base

Routes are appended to the address of a server. Whether that gives the URL of a web server depends on
the base and not on the route, and on a base which names its server, and has neither query nor
fragment, the URLs of two routes differ in the end of their paths only.
-/

namespace Sandboxes.Net.Url

/-! ### What may follow a base -/

/-- Whether the character is a slash in the URL of a web server. -/
def isWebSlash (c : Char) : Bool :=
  c = '/' || c = '\\'

/-- Host and port of an authority. -/
def server? (scheme : String) (authority : List Char) : Option (String × Option Nat) := do
  let address := match Text.splitLast? '@' authority with
    | some (_, address) => address
    | none => authority
  let (hostText, portText) := splitPort false address
  let host ← host? hostText
  let port ← port? scheme portText
  return (host, port)

/-- The authority of a web URL, of what follows its scheme. -/
def authorityOf (cs : List Char) : List Char :=
  (cs.dropWhile isWebSlash).takeWhile (!endsAuthority ·)

/-- What follows the authority of a web URL. -/
def afterAuthority (cs : List Char) : List Char :=
  (cs.dropWhile isWebSlash).dropWhile (!endsAuthority ·)

/-- A path of plain segments. -/
def IsPath (path : List Char) : Prop :=
  ∃ segments ≠ [], (∀ s ∈ segments, IsPlain s) ∧ path = segments.flatMap ('/' :: ·)

/-- A path that may be appended to any base. Its first segment would do as the server, for a base
which names none. -/
structure IsRoute (path : List Char) : Prop where
  plain : IsPath path
  server : ∀ scheme ∈ ["http", "https"], (server? scheme (authorityOf path)).isSome = true

variable {base scheme : String} {path other cs rest : List Char} {u : Url}

lemma isPath_of_fields (ne : (Text.fields '/' path).tail ≠ [])
    (plain : ∀ s ∈ (Text.fields '/' path).tail, IsPlain s)
    (whole : path = (Text.fields '/' path).tail.flatMap ('/' :: ·)) : IsPath path :=
  ⟨_, ne, plain, whole⟩

lemma IsPath.head? (h : IsPath path) : path.head? = some '/' := by
  obtain ⟨segments, ne, -, rfl⟩ := h
  obtain ⟨s, segments, rfl⟩ := List.exists_cons_of_ne_nil ne
  rfl

lemma IsPath.ne_nil (h : IsPath path) : path ≠ [] := by
  rintro rfl
  cases h.head?

lemma IsPath.char (h : IsPath path) {c : Char} (hc : c ∈ path) :
    0x20 < c.toNat ∧ c ≠ ':' ∧ c ≠ '?' ∧ c ≠ '#' ∧ c ≠ '\\' := by
  obtain ⟨segments, -, plain, rfl⟩ := h
  obtain ⟨⟨low, -⟩, query, fragment, -⟩ := readable_of_plain plain c hc
  obtain ⟨s, hs, hc⟩ := List.mem_flatMap.mp hc
  rcases List.mem_cons.mp hc with rfl | hc
  · decide
  · have unreserved := (plain s hs).1 c hc
    refine ⟨low, ?_, query, fragment, ?_⟩ <;>
    · rintro rfl
      revert unreserved
      decide

/-- A single slash is a path, though no route. -/
lemma isPath_slash : IsPath ['/'] :=
  ⟨[[]], by simp, by decide, rfl⟩

/-! ### Lists that go on with a slash -/

section Append

variable {α : Type} {p : α → Bool} {a : α} {front tail : List α}

lemma takeWhile_append_of_head (hr : tail.head? = some a) (ha : p a = false) :
    (front ++ tail).takeWhile p = front.takeWhile p := by
  induction front with
  | nil =>
    cases tail with
    | nil => cases hr
    | cons b tail =>
      cases hr
      simp [ha]
  | cons b front ih =>
    simp only [List.cons_append, List.takeWhile_cons, ih]

lemma dropWhile_append_of_head (hr : tail.head? = some a) (ha : p a = false) :
    (front ++ tail).dropWhile p = front.dropWhile p ++ tail := by
  induction front with
  | nil =>
    cases tail with
    | nil => cases hr
    | cons b tail =>
      cases hr
      simp [ha]
  | cons b front ih =>
    simp only [List.cons_append, List.dropWhile_cons, ih]
    split <;> rfl

lemma splitFirst?_append [DecidableEq α] (h : a ∉ tail) :
    Text.splitFirst? a (front ++ tail) =
      (Text.splitFirst? a front).map fun (before, after) => (before, after ++ tail) := by
  induction front with
  | nil => rw [List.nil_append, Text.splitFirst?_of_not_mem h, Text.splitFirst?, Option.map_none]
  | cons b front ih =>
    simp only [List.cons_append, Text.splitFirst?]
    split
    · rfl
    · rw [ih, Option.map_map, Option.map_map]
      rfl

end Append

/-! ### Reading a base with a path -/

/-- What is left of a base that a path follows. -/
def cleanedBase (base : String) : List Char :=
  (base.toList.dropWhile (·.toNat ≤ 0x20)).filter fun c => c ≠ '\t' && c ≠ '\n' && c ≠ '\r'

lemma cleaned_append (h : IsPath path) :
    cleaned (base ++ String.ofList path) = cleanedBase base ++ path := by
  have visible : ∀ c ∈ path, decide (c.toNat ≤ 0x20) = false := fun c hc => by
    simpa using (h.char hc).1
  obtain ⟨last, front, hp⟩ : ∃ last front, path.reverse = last :: front :=
    List.exists_cons_of_ne_nil (by simpa using h.ne_nil)
  have stays : decide (last.toNat ≤ 0x20) = false :=
    visible last (List.mem_reverse.mp (by simp [hp]))
  have trimmed : Text.trimBy (·.toNat ≤ 0x20) (base.toList ++ path) =
      base.toList.dropWhile (·.toNat ≤ 0x20) ++ path := by
    rw [Text.trimBy, dropWhile_append_of_head h.head? (by decide), List.reverse_append, hp,
      List.cons_append, List.dropWhile_cons_of_neg (by simp [stays]), ← List.cons_append, ← hp,
      ← List.reverse_append, List.reverse_reverse]
  have kept : path.filter (fun c => c ≠ '\t' && c ≠ '\n' && c ≠ '\r') = path := by
    refine List.filter_eq_self.mpr fun c hc => ?_
    have low := (h.char hc).1
    simp only [Bool.and_eq_true, decide_eq_true_eq]
    refine ⟨⟨?_, ?_⟩, ?_⟩ <;>
    · rintro rfl
      contradiction
  rw [cleaned, String.toList_append, String.toList_ofList, trimmed, List.filter_append, kept,
    cleanedBase]

lemma scheme?_append (h : IsPath path) :
    scheme? (cs ++ path) = (scheme? cs).map fun (scheme, rest) => (scheme, rest ++ path) := by
  have colon : ':' ∉ path := fun hc => (h.char hc).2.1 rfl
  simp only [scheme?, splitFirst?_append colon]
  cases Text.splitFirst? ':' cs with
  | none => rfl
  | some parts =>
    obtain ⟨name, rest⟩ := parts
    cases name with
    | nil => rfl
    | cons c name =>
      simp only [Option.map_some, Option.bind_eq_bind, Option.bind_some]
      split <;> rfl

/-- The URL of a web server, with what follows the server. -/
def ofServer (scheme : String) (server : String × Option Nat) (rest : List Char) : Url :=
  let (beforeFragment, fragment) := spanUntil (· = '#') rest
  let (path, query) := spanUntil (· = '?') beforeFragment
  { scheme
    host := server.1
    port := server.2
    path := normalPath isWebSlash (path.drop 1)
    query := match query with
      | [] => none
      | _ :: q => some (String.ofList (percentEncode escapedInQuery q))
    fragment := match fragment with
      | [] => none
      | _ :: f => some (String.ofList (percentEncode escapedInFragment f)) }

/-- A URL of a web server is read if its authority is. -/
lemma ofText?_of_scheme? {s : String} (hs : scheme? (cleaned s) = some (scheme, cs))
    (web : (defaultPort? scheme).isSome = true) :
    ofText? s = (server? scheme (authorityOf cs)).map fun server =>
      ofServer scheme server (afterAuthority cs) := by
  simp only [ofText?, hs, web, server?, if_true, Option.bind_eq_bind, Option.bind_some]
  let parts := splitPort false (match Text.splitLast? '@' (authorityOf cs) with
    | some (_, address) => address
    | none => authorityOf cs)
  change ((host? parts.1).bind fun host => (port? scheme parts.2).bind fun port =>
      some (ofServer scheme (host, port) (afterAuthority cs))) =
    ((host? parts.1).bind fun host => (port? scheme parts.2).bind fun port =>
      some (host, port)).map _
  cases host? parts.1 <;> cases port? scheme parts.2 <;> rfl

lemma exists_scheme?_of_ofText? {s : String} (h : ofText? s = some u) :
    ∃ cs, scheme? (cleaned s) = some (u.scheme, cs) := by
  cases hs : scheme? (cleaned s) with
  | none => simp [ofText?, hs] at h
  | some parts =>
    obtain ⟨scheme, cs⟩ := parts
    suffices u.scheme = scheme by exact ⟨cs, by rw [this]⟩
    simp only [ofText?, hs, Option.bind_eq_bind, Option.bind_some] at h
    split at h
    · simp only [Option.bind_eq_some_iff] at h
      obtain ⟨host, -, port, -, hu⟩ := h
      cases hu
      rfl
    · simp only [Option.bind_eq_some_iff] at h
      obtain ⟨afterSlashes, -, host, -, port, -, hu⟩ := h
      cases hu
      rfl

lemma scheme_mem_of_isWeb (web : u.isWeb = true) : u.scheme ∈ ["http", "https"] := by
  simpa [isWeb] using web

lemma isSome_defaultPort?_of_mem (h : scheme ∈ ["http", "https"]) :
    (defaultPort? scheme).isSome = true := by
  revert scheme
  decide

/-- The scheme of a web URL that a path on a base makes is the base's. -/
lemma exists_scheme?_of_append (hp : IsPath path) (h : ofText? (base ++ .ofList path) = some u) :
    ∃ rest, scheme? (cleanedBase base) = some (u.scheme, rest) := by
  obtain ⟨cs, hs⟩ := exists_scheme?_of_ofText? h
  rw [cleaned_append hp, scheme?_append hp, Option.map_eq_some_iff] at hs
  obtain ⟨⟨scheme, rest⟩, hb, heq⟩ := hs
  cases heq
  exact ⟨rest, hb⟩

lemma ofText?_append (hs : scheme? (cleanedBase base) = some (scheme, rest))
    (web : scheme ∈ ["http", "https"]) (hp : IsPath path) :
    ofText? (base ++ .ofList path) = (server? scheme (authorityOf (rest ++ path))).map fun server =>
      ofServer scheme server (afterAuthority (rest ++ path)) := by
  refine ofText?_of_scheme? ?_ (isSome_defaultPort?_of_mem web)
  rw [cleaned_append hp, scheme?_append hp, hs, Option.map_some]

lemma dropWhile_isWebSlash_append (named : rest.dropWhile isWebSlash ≠ []) :
    (rest ++ path).dropWhile isWebSlash = rest.dropWhile isWebSlash ++ path := by
  rw [List.dropWhile_append, if_neg (by simpa using named)]

lemma authorityOf_append (named : rest.dropWhile isWebSlash ≠ []) (hp : IsPath path) :
    authorityOf (rest ++ path) = authorityOf rest := by
  rw [authorityOf, dropWhile_isWebSlash_append named, takeWhile_append_of_head hp.head? rfl,
    authorityOf]

lemma afterAuthority_append (named : rest.dropWhile isWebSlash ≠ []) (hp : IsPath path) :
    afterAuthority (rest ++ path) = afterAuthority rest ++ path := by
  rw [afterAuthority, dropWhile_isWebSlash_append named, dropWhile_append_of_head hp.head? rfl,
    afterAuthority]

/-- On a base which names no server, the first segment of the path would be the server. -/
lemma authorityOf_append_of_eq_nil (unnamed : rest.dropWhile isWebSlash = []) :
    authorityOf (rest ++ path) = authorityOf path := by
  rw [authorityOf, List.dropWhile_append, if_pos (by simp [unnamed]), authorityOf]

/-- If one route on a base makes the URL of a web server, every route does. -/
lemma exists_isWeb_of_route (hp : IsRoute path) (hq : IsRoute other)
    (h : ofText? (base ++ .ofList path) = some u) (web : u.isWeb = true) :
    ∃ u', ofText? (base ++ .ofList other) = some u' ∧ u'.isWeb = true := by
  have mem := scheme_mem_of_isWeb web
  obtain ⟨rest, hs⟩ := exists_scheme?_of_append hp.plain h
  obtain ⟨server, hserver⟩ : ∃ server, server? u.scheme (authorityOf (rest ++ other)) = some server := by
    by_cases named : rest.dropWhile isWebSlash = []
    · rw [authorityOf_append_of_eq_nil named]
      exact Option.isSome_iff_exists.mp (hq.server u.scheme mem)
    · rw [ofText?_append hs mem hp.plain, authorityOf_append named hp.plain,
        Option.map_eq_some_iff] at h
      obtain ⟨server, hserver, -⟩ := h
      exact ⟨server, by rw [authorityOf_append named hq.plain, hserver]⟩
  refine ⟨_, by rw [ofText?_append hs mem hq.plain, hserver, Option.map_some], ?_⟩
  exact web

/-! ### A base without query and fragment -/

lemma resolve_append (done segments : List (List Char)) :
    ∃ front, ∀ rest ≠ [], (∀ s ∈ rest, IsPlain s) →
      resolve done (segments ++ rest) = front ++ rest := by
  induction segments generalizing done with
  | nil => exact ⟨done.reverse, fun rest _ plain => resolve_of_forall fun s hs => (plain s hs).2⟩
  | cons s segments ih =>
    obtain ⟨front, hfront⟩ := ih (if dots? s = some 2 then done.drop 1 else done)
    obtain ⟨front', hfront'⟩ := ih (s :: if dots? s = some 2 then done.drop 1 else done)
    by_cases dots : dots? s = some 2 ∨ dots? s = some 1
    · refine ⟨front, fun rest ne plain => ?_⟩
      rw [List.cons_append, resolve, if_pos dots, if_neg (by simp [ne]), hfront rest ne plain]
    · refine ⟨front', fun rest ne plain => ?_⟩
      rw [List.cons_append, resolve, if_neg dots, hfront' rest ne plain]

/-- A character of the path of a web URL, of which all slashes are alike. -/
def unified (c : Char) : Char :=
  if isWebSlash c then '/' else c

lemma map_unified (h : IsPath path) : path.map unified = path := by
  refine (List.map_congr_left fun c hc => ?_).trans (List.map_id path)
  obtain ⟨-, -, -, -, backslash⟩ := h.char hc
  rw [unified, isWebSlash]
  split <;> simp_all

/-- The fields of a path that ends in plain segments end in them. -/
lemma exists_fields_append (rest : List Char) :
    ∃ front, ∀ segments ≠ [], (∀ s ∈ segments, IsPlain s) →
      Text.fields '/' (((rest ++ segments.flatMap ('/' :: ·)).drop 1).map unified) =
        front ++ segments := by
  have free : ∀ {segments : List (List Char)}, (∀ s ∈ segments, IsPlain s) →
      ∀ s ∈ segments, '/' ∉ s := by
    intro segments plain s hs slash
    exact (plain_of_isUnreserved ((plain s hs).1 _ slash)).2.1.1 rfl
  cases rest with
  | nil =>
    refine ⟨[], fun segments ne plain => ?_⟩
    obtain ⟨s, segments, rfl⟩ := List.exists_cons_of_ne_nil ne
    rw [List.nil_append, List.map_drop, map_unified ⟨_, ne, plain, rfl⟩]
    exact Text.fields_append_flatMap (free plain)
  | cons c rest =>
    refine ⟨Text.fields '/' (rest.map unified), fun segments ne plain => ?_⟩
    rw [List.cons_append, List.drop_one, List.tail_cons, List.map_append,
      map_unified ⟨_, ne, plain, rfl⟩]
    exact Text.fields_append_flatMap_of_forall (free plain)

/-- The normal form of a path that ends in plain segments ends in them. -/
lemma exists_normalPath_append (rest : List Char) :
    ∃ front, ∀ path, IsPath path →
      normalPath isWebSlash ((rest ++ path).drop 1) = front ++ .ofList path := by
  obtain ⟨fields, hfields⟩ := exists_fields_append rest
  obtain ⟨front, hfront⟩ := resolve_append [] (fields.map (percentEncode escapedInPath))
  refine ⟨.ofList (front.flatMap ('/' :: ·)), ?_⟩
  rintro path ⟨segments, ne, plain, rfl⟩
  change String.ofList ((resolve [] ((Text.fields '/' (List.map unified _)).map _)).flatMap _) = _
  rw [hfields segments ne plain, List.map_append, map_percentEncode_of_plain plain,
    hfront segments ne plain, List.flatMap_append, String.ofList_append]

/-- Without a query and a fragment nothing in the rest of a URL begins one. -/
lemma plain_of_ofServer {server : String × Option Nat}
    (query : (ofServer scheme server rest).query = none)
    (fragment : (ofServer scheme server rest).fragment = none) : ∀ c ∈ rest, c ≠ '#' ∧ c ≠ '?' := by
  have noFragment : rest.dropWhile (fun c => !decide (c = '#')) = [] := by
    revert fragment
    dsimp only [ofServer, spanUntil]
    split
    · exact fun _ => ‹_›
    · rintro ⟨⟩
  have hash := List.dropWhile_eq_nil_iff.mp noFragment
  have whole : rest.takeWhile (fun c => !decide (c = '#')) = rest := List.takeWhile_eq_self_iff.mpr hash
  have noQuery : rest.dropWhile (fun c => !decide (c = '?')) = [] := by
    revert query
    dsimp only [ofServer, spanUntil]
    rw [whole]
    split
    · exact fun _ => ‹_›
    · rintro ⟨⟩
  have mark := List.dropWhile_eq_nil_iff.mp noQuery
  intro c hc
  exact ⟨by simpa using hash c hc, by simpa using mark c hc⟩

lemma ofServer_of_plain {server : String × Option Nat} (h : ∀ c ∈ rest, c ≠ '#' ∧ c ≠ '?') :
    ofServer scheme server rest =
      ⟨scheme, server.1, server.2, normalPath isWebSlash (rest.drop 1), none, none⟩ := by
  have fragment : spanUntil (· = '#') rest = (rest, []) :=
    spanUntil_of_forall fun c hc => by simp [(h c hc).1]
  have query : spanUntil (· = '?') rest = (rest, []) :=
    spanUntil_of_forall fun c hc => by simp [(h c hc).2]
  simp only [ofServer, fragment, query]

/-- A base that with a slash is the URL of a web server, without query and fragment. -/
def IsBase (base : String) : Prop :=
  (ofText? (base ++ "/")).any fun root =>
    root.isWeb && root.query.isNone && root.fragment.isNone

instance (base : String) : Decidable (IsBase base) :=
  inferInstanceAs (Decidable (_ = true))

/-- On such a base, the URLs of all paths are the same but for the end of their paths. -/
lemma IsBase.exists_ofText? (hb : IsBase base) :
    ∃ (root : Url) (front : String), ∀ path, IsPath path →
      ofText? (base ++ .ofList path) = some { root with path := front ++ .ofList path } := by
  obtain ⟨root, h, conditions⟩ := (Option.any_eq_true _ _).mp hb
  simp only [Bool.and_eq_true, Option.isNone_iff_eq_none] at conditions
  obtain ⟨⟨web, query⟩, fragment⟩ := conditions
  have mem := scheme_mem_of_isWeb web
  obtain ⟨rest, hs⟩ := exists_scheme?_of_append isPath_slash h
  have named : rest.dropWhile isWebSlash ≠ [] := by
    intro unnamed
    have read := ofText?_append hs mem isPath_slash
    rw [authorityOf_append_of_eq_nil unnamed] at read
    cases h.symm.trans read
  have read : ∀ path, IsPath path →
      ofText? (base ++ .ofList path) = (server? root.scheme (authorityOf rest)).map fun server =>
        ofServer root.scheme server (afterAuthority rest ++ path) := by
    intro path hp
    rw [ofText?_append hs mem hp, authorityOf_append named hp, afterAuthority_append named hp]
  obtain ⟨server, hserver, hroot⟩ := Option.map_eq_some_iff.mp ((read _ isPath_slash).symm.trans h)
  obtain ⟨front, hfront⟩ := exists_normalPath_append (afterAuthority rest)
  rw [← hroot] at query fragment
  have plain := plain_of_ofServer query fragment
  refine ⟨root, front, fun path hp => ?_⟩
  have plain' : ∀ c ∈ afterAuthority rest ++ path, c ≠ '#' ∧ c ≠ '?' := by
    intro c hc
    rcases List.mem_append.mp hc with hc | hc
    · exact plain c (List.mem_append_left _ hc)
    · obtain ⟨-, -, query, fragment, -⟩ := hp.char hc
      exact ⟨fragment, query⟩
  rw [read path hp, hserver, Option.map_some, ofServer_of_plain plain', hfront path hp, ← hroot,
    ofServer_of_plain plain]

end Sandboxes.Net.Url
