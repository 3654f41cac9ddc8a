import HostConsole.Proofs.ChangeRequest
import HostConsole.Proofs.FormEncoding
import HostConsole.Proofs.Route

/-!
# What a target says

The target of a request says what was asked for: the names of its path are those of the server's
address and then the segments of the call, and its query has the pairs of the call. Neither
encoding lets a text of the call be taken for something else, so no slash, question mark, number
sign or ampersand of such a text parts or ends anything.

Reading a target back needs two more things than that the encodings can be undone. The segments of
the server's address must have no slash and no question mark of their own, which is a matter of how
addresses are read, and the texts of the call must be plain.

## Main definitions

* `Target.names`, `Target.pairs?`: what a target says
* `Call.texts`: the texts of a call that come into its path

## Main results

* `Address.isWritten_of_read`: what the segments of an address that was read look like
* `Connection.target_of_call`: the names and the pairs of the target of a call
-/

namespace HostConsole

open Url

/-! ## Targets -/

namespace Target

/-- The names of the path of a target, decoded. -/
def names (target : String) : List (List UInt8) :=
  (((target.toList.takeWhile (· != '?')).splitOn '/').drop 1).map percentDecode

/-- The pairs of the query of a target, if it has one. -/
def pairs? (target : String) : Option Query :=
  (target.toList.dropWhile (· != '?')).tail?.map decodePairs

/-- The path of a target ends at its first question mark. -/
theorem takeWhile_append_querySuffix {path : List Char} (h : '?' ∉ path) (a : Address) :
    (path ++ a.querySuffix).takeWhile (· != '?') = path ∧
      (path ++ a.querySuffix).dropWhile (· != '?') = a.querySuffix := by
  have before : ∀ c ∈ path, (c != '?') = true := by
    intro c hc
    have other : c ≠ '?' := fun mark => h (mark ▸ hc)
    simpa using other
  rw [List.takeWhile_append_of_pos before, List.dropWhile_append_of_pos before]
  unfold Address.querySuffix
  cases a.query <;> simp

end Target

/-! ## The segments of an address -/

namespace Address

/-- A segment that neither parts nor ends a path. -/
def IsWritten (name : String) : Prop :=
  '/' ∉ name.toList ∧ '?' ∉ name.toList

theorem isWritten_encodeSegment (special : Bool) (name : String) :
    IsWritten (encodeSegment special name) :=
  ⟨slash_notMem_encodeSegment name, notMem_encodeSegment (by decide) (by decide) name⟩

theorem isWritten_empty : IsWritten "" :=
  ⟨List.not_mem_nil, List.not_mem_nil⟩

/-- A part of a path that has no slash is written as such a segment. -/
theorem isWritten_percentEncode {cs : List Char} (h : '/' ∉ cs) :
    IsWritten (.ofList (percentEncode keepsInPath cs)) := by
  unfold IsWritten
  rw [String.toList_ofList]
  have mark : IsUnwritten '?' := by decide
  refine ⟨fun mem => ?_, mark.notMem_percentEncode (by decide) cs⟩
  -- A slash may stand in a path, so one that stands there stood in the text already.
  obtain ⟨c, hc, written⟩ := List.mem_flatMap.mp mem
  have slash : IsUnwritten '/' := by decide
  by_cases kept : c = '/'
  · exact h (kept ▸ hc)
  · unfold encodeChar at written
    split at written
    · exact kept (List.mem_singleton.mp written).symm
    · obtain ⟨b, -, hb⟩ := List.mem_flatMap.mp written
      exact slash.notMem_encodeByte b hb

/-- The pieces between some characters have none of them. -/
theorem eq_false_of_mem_splitOnP {p : Char → Bool} {cs piece : List Char} (h : piece ∈ cs.splitOnP p) :
    ∀ c ∈ piece, p c = false := by
  induction cs generalizing piece with
  | nil =>
    obtain rfl : piece = [] := by simpa using h
    simp
  | cons d cs ih =>
    rw [List.splitOnP_cons_eq_if_modifyHead] at h
    split at h
    · rcases List.mem_cons.mp h with rfl | h
      · simp
      · exact ih h
    · next other =>
      -- The first piece grows by a character that parts nothing.
      rcases pieces : cs.splitOnP p with _ | ⟨first, others⟩
      · exact absurd pieces (List.splitOnP_ne_nil p cs)
      · rw [pieces, List.modifyHead_cons] at h
        rw [pieces] at ih
        rcases List.mem_cons.mp h with rfl | h
        · intro c hc
          rcases List.mem_cons.mp hc with rfl | hc
          · simpa using other
          · exact ih List.mem_cons_self c hc
        · exact ih (List.mem_cons_of_mem _ h)

/-- Following the names of places writes no segment that parts or ends a path. -/
theorem isWritten_followSegments {names : List String} {pieces : List (List Char)}
    (hn : ∀ name ∈ names, IsWritten name) (hp : ∀ piece ∈ pieces, '/' ∉ piece) :
    ∀ name ∈ followSegments names pieces, IsWritten name := by
  have shorter {names : List String} (hn : ∀ name ∈ names, IsWritten name) :
      ∀ name ∈ names.dropLast, IsWritten name := fun name mem =>
    hn name (List.dropLast_subset _ mem)
  have longer {names : List String} {last : String} (hn : ∀ name ∈ names, IsWritten name)
      (hl : IsWritten last) : ∀ name ∈ names ++ [last], IsWritten name := by
    intro name mem
    rcases List.mem_append.mp mem with mem | mem
    · exact hn name mem
    · exact List.mem_singleton.mp mem ▸ hl
  -- The cases are those of the recursion: nothing, the last piece, or a piece with others behind it.
  fun_induction followSegments names pieces with
  | case1 names => exact hn
  | case2 names last parent => exact longer (shorter hn) isWritten_empty
  | case3 names last parent self => exact longer hn isWritten_empty
  | case4 names last parent self =>
    exact longer hn (isWritten_percentEncode (hp last List.mem_cons_self))
  | case5 names piece others _ parent ih =>
    exact ih (shorter hn) fun other mem => hp other (List.mem_cons_of_mem _ mem)
  | case6 names piece others _ parent self ih =>
    exact ih hn fun other mem => hp other (List.mem_cons_of_mem _ mem)
  | case7 names piece others _ parent self ih =>
    exact ih (longer hn (isWritten_percentEncode (hp piece List.mem_cons_self)))
      fun other mem => hp other (List.mem_cons_of_mem _ mem)

theorem isWritten_readSegments (special : Bool) (cs : List Char) :
    ∀ name ∈ readSegments special cs, IsWritten name := by
  unfold readSegments
  split
  · split
    · intro name mem
      exact List.mem_singleton.mp mem ▸ isWritten_empty
    · simp
  · refine isWritten_followSegments (by simp) fun piece mem slash => ?_
    have parts := eq_false_of_mem_splitOnP mem '/' slash
    simp [isSlash] at parts

/-- The route of the address is a text, or its segments are those of a path that was read. -/
def IsRead (a : Address) : Prop :=
  (∃ special path, a.route = .segments (readSegments special path)) ∨
    ∃ text, a.route = .text text

theorem isRead_of_readAuthority {scheme : String} {cs : List Char} {a : Address}
    (h : readAuthority scheme cs = .ok a) : a.IsRead := by
  unfold readAuthority at h
  dsimp only at h
  split at h
  · cases h
  · -- The host is read one way or the other, and then the number.
    split at h
    all_goals
      obtain ⟨host, -, h⟩ := exists_of_bind_eq_ok h
      obtain ⟨number, -, h⟩ := exists_of_bind_eq_ok h
      cases h
      exact .inl ⟨_, _, rfl⟩

theorem isRead_of_readFile {cs : List Char} {a : Address} (h : readFile cs = .ok a) :
    a.IsRead := by
  unfold readFile at h
  dsimp only at h
  split at h
  · split at h
    · cases h
      exact .inl ⟨_, _, rfl⟩
    · obtain ⟨host, -, h⟩ := exists_of_bind_eq_ok h
      cases h
      exact .inl ⟨_, _, rfl⟩
  · cases h
    exact .inl ⟨_, _, rfl⟩

theorem isRead_of_read {s : String} {a : Address} (h : read s = .ok a) : a.IsRead := by
  unfold read at h
  split at h
  · cases h
  · split at h
    · exact isRead_of_readFile h
    · split at h
      · exact isRead_of_readAuthority h
      · split at h
        · exact isRead_of_readAuthority h
        · cases h
          unfold IsRead
          dsimp only [withSuffix]
          split
          · exact .inl ⟨_, _, rfl⟩
          · exact .inr ⟨_, rfl⟩

/-- No segment of an address that was read parts or ends a path. -/
theorem isWritten_of_read {s : String} {a : Address} (h : read s = .ok a) :
    ∀ name ∈ a.segments, IsWritten name := by
  rcases isRead_of_read h with ⟨special, path, route⟩ | ⟨text, route⟩
  · rw [segments, route]
    exact isWritten_readSegments special path
  · simp [segments, route]

theorem mem_segments_of_mem_root {a : Address} {name : String} (h : name ∈ a.root) :
    name ∈ a.segments := by
  unfold root at h
  split at h
  · cases h
  · split at h
    · exact List.dropLast_subset _ h
    · exact h

/-! ## Paths taken apart -/

theorem append_joinSegments (first : List Char) (names : List String) :
    first ++ joinSegments names = ['/'].intercalate (first :: names.map String.toList) := by
  induction names generalizing first with
  | nil => simp [joinSegments]
  | cons name names ih =>
    have behind := ih name.toList
    simp only [joinSegments, List.flatMap_cons, List.cons_append] at behind ⊢
    rw [behind]
    simp [List.intercalate]

/-- A path is taken apart at the slashes before its segments. -/
theorem splitOn_joinSegments {names : List String} (h : ∀ name ∈ names, '/' ∉ name.toList) :
    (joinSegments names).splitOn '/' = [] :: names.map String.toList := by
  rw [← List.nil_append (joinSegments names), append_joinSegments]
  refine List.splitOn_intercalate '/' ?_ (List.cons_ne_nil _ _)
  intro piece mem
  rcases List.mem_cons.mp mem with rfl | mem
  · simp
  · obtain ⟨name, listed, rfl⟩ := List.mem_map.mp mem
    exact h name listed

theorem joinSegments_ne_nil {names : List String} (h : names ≠ []) :
    ∃ rest, joinSegments names = '/' :: rest := by
  obtain ⟨name, names, rfl⟩ := List.exists_cons_of_ne_nil h
  exact ⟨_, rfl⟩

theorem mem_joinSegments {names : List String} {c : Char} (h : c ∈ joinSegments names) :
    c = '/' ∨ ∃ name ∈ names, c ∈ name.toList := by
  obtain ⟨name, mem, hc⟩ := List.mem_flatMap.mp h
  rcases List.mem_cons.mp hc with slash | inside
  · exact .inl slash
  · exact .inr ⟨name, mem, inside⟩

end Address

/-! ## The texts of a call -/

/-- The texts of a lookup that come into its path. -/
def Lookup.texts : Lookup → List String
  | environments org _ | systemsOfOrganisation org _ | tasks org _ | systemGroups org _
  | report (.organisation org) _ => [org]
  | system uuid | releasesOfSystem uuid | packages uuid | subscriptions uuid | pools uuid _ => [uuid]
  | task id => [id]
  | customInfo owner key => owner :: key.toList
  | systemsOfEnvironment .. | releasesOfEnvironment _ | report (.environment _) _ => []

/-- The texts of a change that come into its path. -/
def Change.texts : Change → List String
  | register registration => [registration.org]
  | unregister uuid | removeDeletionRecord uuid | update uuid _ | packageAction uuid _
  | subscribe uuid .. | unsubscribe uuid .all | addSystemGroups uuid _
  | removeSystemGroups uuid _ => [uuid]
  | unsubscribe uuid (.serial text) | unsubscribe uuid (.entitlement text) => [uuid, text]
  | addCustomInfo owner _ _ => [owner]
  | updateCustomInfo owner key current _ => [owner, key, current]
  | removeCustomInfo owner key value => owner :: key :: value.toList

/-- The texts of a call that come into its path. -/
def Call.texts : Call → List String
  | lookup l => l.texts
  | change ch => ch.texts

/-- A number is written plainly. -/
theorem Address.isPlain_repr (n : Nat) : IsPlain (Nat.repr n) := by
  have digit : ∀ c ∈ (Nat.repr n).toList, c.isDigit = true := by
    intro c hc
    rw [Nat.repr, String.toList_ofList] at hc
    exact Nat.isDigit_of_mem_toDigits (by decide) (by decide) hc
  refine ⟨fun dot => ?_, fun dots => ?_, ?_⟩
  · exact absurd (digit '.' (by simp [dot])) (by decide)
  · exact absurd (digit '.' (by simp [dots])) (by decide)
  · have kept : ∀ c ∈ (Nat.repr n).toList, (!(['\t', '\n', '\r'].contains c)) = true := by
      intro c hc
      have digits := digit c hc
      simp only [List.contains_eq_mem, Bool.not_eq_true', decide_eq_false_iff_not]
      intro mem
      simp only [List.mem_cons, List.not_mem_nil, or_false] at mem
      rcases mem with rfl | rfl | rfl
      · exact absurd digits (by decide)
      · exact absurd digits (by decide)
      · exact absurd digits (by decide)
    rw [withoutBreaks, List.filter_eq_self.mpr kept, String.ofList_toList]

namespace Call

/-- Besides its texts only numbers and fixed names come into the path of a call. -/
theorem isPlain_segments {call : Call} (h : ∀ text ∈ call.texts, Address.IsPlain text) :
    ∀ name ∈ call.request.segments, Address.IsPlain name := by
  have fixed : ∀ name ∈ ["environments", "releases", "tasks", "pools", "report"] ++
      Change.fixedNames, Address.IsPlain name := by
    decide
  simp only [Change.fixedNames, List.cons_append, List.nil_append, List.forall_mem_cons] at fixed
  cases call with
  | lookup l =>
    cases l with
    | report scope format =>
      cases scope <;>
        simp_all [Call.texts, Lookup.texts, Call.request, Lookup.request, Lookup.scopeSegments,
          Address.isPlain_repr]
    | _ =>
      simp_all [Call.texts, Lookup.texts, Call.request, Lookup.request, Request.look,
        Address.isPlain_repr]
  | change ch =>
    cases ch with
    | unsubscribe uuid target =>
      cases target <;>
        simp_all [Call.texts, Change.texts, Call.request, Change.request, Request.change,
          Change.targetSegments]
    | _ => simp_all [Call.texts, Change.texts, Call.request, Change.request, Request.change]

/-- The first segment of a call is a fixed name. -/
theorem exists_segments (call : Call) :
    ∃ first more, call.request.segments = first :: more ∧ first ≠ "" := by
  cases call with
  | lookup l =>
    cases l with
    | report scope format => cases scope <;> exact ⟨_, _, rfl, by decide⟩
    | _ => exact ⟨_, _, rfl, by decide⟩
  | change ch => exact ch.exists_segments

end Call

/-! ## The target of a call -/

namespace Connection

variable {c : Connection} {settings : Settings}

theorem exists_read_of_ofSettings (opened : ofSettings settings = .ok c) :
    Address.read settings.url = .ok c.base := by
  unfold ofSettings at opened
  split at opened
  · cases opened
  · next base read =>
    cases rootless : base.isRootless with
    | true =>
      rw [rootless] at opened
      cases opened
    | false =>
      rw [rootless] at opened
      cases opened
      exact read

/-- Taking the user away leaves the path, the scheme and the query. -/
theorem plainBase_eq (c : Connection) :
    c.plainBase.route = c.base.route ∧ c.plainBase.scheme = c.base.scheme ∧
      c.plainBase.query = c.base.query := by
  unfold plainBase
  split <;> exact ⟨rfl, rfl, rfl⟩

theorem root_plainBase (c : Connection) : c.plainBase.root = c.base.root := by
  unfold Address.root Address.segments
  rw [c.plainBase_eq.1]

theorem path_address (c : Connection) (r : Request) :
    (c.address r).path = (c.plainBase.endpoint r.segments).path := by
  unfold address
  cases r.query <;> rfl

/-- Where the server's address has no query, a request has the one of its pairs. -/
theorem query_address (unasked : c.base.query = none) (r : Request) :
    (c.address r).query =
      if r.query.getD [] = [] then none else some (.ofList (encodePairs (r.query.getD []))) := by
  have own : (c.plainBase.endpoint r.segments).query = none := by
    rw [Address.endpoint_nil_query, c.plainBase_eq.2.2, unasked]
  unfold address
  cases r.query with
  | none => exact own
  | some pairs =>
    simp only [Address.withPairs, own, Option.getD_none, Option.getD_some]
    by_cases none : pairs = []
    · simp [none]
    · have written : encodePairs pairs ≠ [] := fun empty => none (encodePairs_eq_nil_iff.mp empty)
      simp [none, written]

/-- **What the target of a call says**: the names of its path are those of the server's address and
then the segments of the call, and its query has the pairs of the call, if there are any. -/
theorem target_of_call (opened : ofSettings settings = .ok c) (unasked : c.base.query = none)
    {call : Call} (plain : ∀ text ∈ call.texts, Address.IsPlain text) :
    let target := (c.wire call.request).target
    let pairs := call.request.query.getD []
    target.toList.head? = some '/' ∧
      Target.names target = c.base.root.map (fun name => percentDecode name.toList) ++
        call.request.segments.map Utf8.bytes ∧
      Target.pairs? target = if pairs = [] then none else some pairs := by
  intro target pairs
  obtain ⟨first, more, segments, hf⟩ := call.exists_segments
  let names := c.base.root ++ (first :: more).map
    (Address.encodeSegment (Address.isSpecialScheme c.plainBase.scheme))
  have written : ∀ name ∈ names, Address.IsWritten name := by
    intro name mem
    rcases List.mem_append.mp mem with mem | mem
    · exact Address.isWritten_of_read (exists_read_of_ofSettings opened) name
        (Address.mem_segments_of_mem_root mem)
    · obtain ⟨name, -, rfl⟩ := List.mem_map.mp mem
      exact Address.isWritten_encodeSegment _ name
  have path : (c.address call.request).path.toList = Address.joinSegments names := by
    have rooted : c.plainBase.isRootless = false :=
      (isRootless_plainBase c).trans (isRootless_of_ofSettings opened)
    have named : ∀ name ∈ first :: more, Address.IsPlain name :=
      segments ▸ Call.isPlain_segments plain
    rw [path_address, segments, Address.path_endpoint rooted hf named, String.toList_ofList,
      root_plainBase, ← Address.joinSegments_append]
  have parts : target.toList =
      Address.joinSegments names ++ (c.address call.request).querySuffix := by
    rw [← path]
    exact String.toList_ofList
  have unmarked : '?' ∉ Address.joinSegments names := by
    intro mem
    rcases Address.mem_joinSegments mem with slash | ⟨name, listed, inside⟩
    · exact absurd slash (by decide)
    · exact (written name listed).2 inside
  obtain ⟨front, behind⟩ := Target.takeWhile_append_querySuffix unmarked (c.address call.request)
  refine ⟨?_, ?_, ?_⟩
  · obtain ⟨rest, slash⟩ := @Address.joinSegments_ne_nil names (by simp [names])
    rw [parts, slash]
    rfl
  · have decoded : ∀ name, percentDecode (Address.encodeSegment
        (Address.isSpecialScheme c.plainBase.scheme) name).toList = Utf8.bytes name :=
      fun name => Address.percentDecode_encodeSegment name
    rw [Target.names, parts, front, Address.splitOn_joinSegments fun name mem => (written name mem).1]
    simp [names, segments, decoded, Function.comp_def]
  · rw [Target.pairs?, parts, behind, Address.querySuffix, query_address unasked]
    by_cases none : call.request.query.getD [] = []
    · rw [if_pos none]
      exact (if_pos none).symm
    · rw [if_neg none]
      refine Eq.trans ?_ (if_neg none).symm
      simp [decodePairs_encodePairs, pairs]

/-- Slashes, spaces, letters beyond ASCII and an empty text are read back behind an address that
ends with a slash, and so is a value that looks like a query of its own. -/
theorem target_of_call_of_signs :
    let c : Connection := { base := { scheme := "http", host := some (.name "h")
                                      route := .segments ["api", ""] } }
    let texts : Call := .lookup (.customInfo "a/b?é" (some ""))
    let listing : Call := .lookup (.systemsOfOrganisation "ACME" { name := some "x&y= +" })
    ofSettings { url := "http://h/api/" } = .ok c ∧ c.base.query = none ∧
      (∀ text ∈ texts.texts ++ listing.texts, Address.IsPlain text) ∧
      Target.names (c.wire texts.request).target =
        ["api", "custom_info", "system", "a/b?é", ""].map Utf8.bytes ∧
      Target.pairs? (c.wire texts.request).target = none ∧
      Target.pairs? (c.wire listing.request).target = some [("name", "x&y= +")] := by
  intro c texts listing
  have opened : ofSettings { url := "http://h/api/" } = .ok c := by
    have found : (ofSettings { url := "http://h/api/" }).toOption = some c := by decide +kernel
    revert found
    cases ofSettings { url := "http://h/api/" } with
    | error failure => exact nofun
    | ok other => exact fun found => congrArg Except.ok (Option.some.inj found)
  have plain : ∀ text ∈ texts.texts ++ listing.texts, Address.IsPlain text := by decide
  obtain ⟨-, names, unasked⟩ := @target_of_call c _ opened rfl texts fun text mem =>
    plain text (List.mem_append_left _ mem)
  obtain ⟨-, -, asked⟩ := @target_of_call c _ opened rfl listing fun text mem =>
    plain text (List.mem_append_right _ mem)
  exact ⟨opened, rfl, plain, names.trans (by decide), unasked, asked⟩

/-- Behind the path of two slashes nothing is left of the server's address. -/
theorem target_of_two_slashes :
    (ofSettings { url := "http://h//" }).toOption.map (fun c =>
        (c.base.segments, (c.wire (Call.lookup (.system "u")).request).target)) =
      some (["", ""], "/systems/u") := by
  decide +kernel

end Connection

end HostConsole
