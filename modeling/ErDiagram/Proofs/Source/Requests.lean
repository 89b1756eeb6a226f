import ErDiagram.Proofs.Uri.Resolution
import ErDiagram.Source.Remote

/-!
# What the requests of a source tell

A source asks a service for the tables of a schema or for one table. It sends one request for it, whose
path tells what is asked for: the names stand between the slashes as segments that read back as the names.
So different questions never lead to the same path. The names `.` and `..` are the exception. As segments
they are steps, which are taken before the request is sent, and then the path tells of something else.
-/

namespace ErDiagram

open Uri

/-- A question for the tables of a schema or for one table, by names that can be sent. -/
inductive Inquiry where
  | tables (schema : String)
  | table (schema name : String)
  deriving DecidableEq, Repr

namespace Inquiry

def path : Inquiry → String
  | tables schema => tablesPath schema
  | table schema name => structurePath schema name

/-- Whether none of the names looks like a step of a path. -/
def isPlain : Inquiry → Bool
  | tables schema => !isStep schema
  | table schema name => !isStep schema && !isStep name

/-- Whether a path tells what is asked for: between its slashes stand the words of the service and
segments that read back as the names. -/
inductive IsToldBy : Inquiry → String → Prop
  | tables {schema segment path : String}
      (cut : (segments path.toList).map String.ofList = ["", "api", "schema", segment, "tables"])
      (read : decode? segment = some schema) : IsToldBy (.tables schema) path
  | table {schema name first second path : String}
      (cut : (segments path.toList).map String.ofList =
        ["", "api", "schema", first, "table", second, "structure"])
      (read : decode? first = some schema) (read' : decode? second = some name) :
      IsToldBy (.table schema name) path

/-- The parts between the slashes of the path that is asked for. -/
def parts : Inquiry → List (List Char)
  | tables schema => ["", "api", "schema", segment schema, "tables"].map String.toList
  | table schema name =>
    ["", "api", "schema", segment schema, "table", segment name, "structure"].map String.toList

theorem toList_path (inquiry : Inquiry) : inquiry.path.toList = joined inquiry.parts := by
  cases inquiry with
  | tables schema => simp [path, parts, tablesPath, joined, List.intercalate]
  | table schema name => simp [path, parts, structurePath, joined, List.intercalate]

theorem areParts (inquiry : Inquiry) : AreParts inquiry.parts := by
  have hname : ∀ name : String, ∀ c ∈ (segment name).toList, isSegmentChar c :=
    fun _ _ hc => isSegmentChar_of_mem_segment hc
  have hall : (["", "api", "schema", "table", "tables", "structure"].all
      fun word => word.toList.all isSegmentChar) = true := by decide +kernel
  have hwords := fun word hword => List.all_eq_true.1 (List.all_eq_true.1 hall word hword)
  cases inquiry with
  | tables schema =>
      refine ⟨⟨_, _, by decide +kernel, rfl⟩, ?_⟩
      simp only [parts, List.map_cons, List.map_nil, List.forall_mem_cons]
      exact ⟨hwords _ (by simp), hwords _ (by simp), hwords _ (by simp), hname schema,
        hwords _ (by simp), by simp⟩
  | table schema name =>
      refine ⟨⟨_, _, by decide +kernel, rfl⟩, ?_⟩
      simp only [parts, List.map_cons, List.map_nil, List.forall_mem_cons]
      exact ⟨hwords _ (by simp), hwords _ (by simp), hwords _ (by simp), hname schema,
        hwords _ (by simp), hname name, hwords _ (by simp), by simp⟩

theorem toList_path_ne_nil (inquiry : Inquiry) : inquiry.path.toList ≠ [] := by
  obtain ⟨rest, hpath, -⟩ := inquiry.areParts.isRooted.root
  rw [inquiry.toList_path, hpath]
  exact List.cons_ne_nil '/' rest

theorem isPlain_iff (inquiry : Inquiry) :
    inquiry.isPlain ↔ ∀ part ∈ inquiry.parts, part ≠ ['.'] ∧ part ≠ ['.', '.'] := by
  have hname : ∀ name, isStep name = false ↔
      (segment name).toList ≠ ['.'] ∧ (segment name).toList ≠ ['.', '.'] := by
    intro name
    rw [← not_or, segment_isStep, Bool.not_eq_true]
  cases inquiry with
  | tables schema => simp [isPlain, parts, hname]
  | table schema name => simp [isPlain, parts, hname]

theorem isToldBy_joined (inquiry : Inquiry) :
    inquiry.IsToldBy (String.ofList (joined inquiry.parts)) := by
  have hcut := inquiry.areParts.segments_eq
  cases inquiry with
  | tables schema =>
      refine .tables ?_ (decode?_segment schema)
      rw [String.toList_ofList, hcut]
      simp [parts]
  | table schema name =>
      refine .table ?_ (decode?_segment schema) (decode?_segment name)
      rw [String.toList_ofList, hcut]
      simp [parts]

theorem IsToldBy.length_segments {inquiry : Inquiry} {path : String} (h : inquiry.IsToldBy path) :
    (segments path.toList).length = inquiry.parts.length := by
  cases h with
  | tables cut read => simpa [parts] using congrArg List.length cut
  | table cut read read' => simpa [parts] using congrArg List.length cut

theorem IsToldBy.unique {inquiry other : Inquiry} {path : String} (h : inquiry.IsToldBy path)
    (h' : other.IsToldBy path) : inquiry = other := by
  cases h with
  | tables cut read =>
      cases h' with
      | tables cut' read' =>
          obtain rfl : _ = _ := by simpa using cut.symm.trans cut'
          rw [Option.some.inj (read.symm.trans read')]
      | table cut' => simp [cut] at cut'
  | table cut first second =>
      cases h' with
      | tables cut' => simp [cut] at cut'
      | table cut' first' second' =>
          obtain ⟨rfl, rfl⟩ : _ = _ ∧ _ = _ := by simpa using cut.symm.trans cut'
          rw [Option.some.inj (first.symm.trans first'), Option.some.inj (second.symm.trans second')]

end Inquiry

namespace Remote

/-- The address that the next request of a source starts from. -/
def base (remote : Remote) : Address := remote.ready.client.base

def requestAt (remote : Remote) (context : Context) (address : Address) : HttpRequest :=
  requestTo address context.requestHeaders
    (remote.policy.header remote.ready.client.receipts address)

theorem ask_ok {α : Type} (remote : Remote) (context : Context) (path : String)
    (reader : Json → Except Fault α) :
    remote.ask context (.ok path) reader =
      ((remote.get context path).1.bind reader, (remote.get context path).2) := by
  rw [ask]

/-- How an answer is read makes no difference to the source. -/
theorem ask_snd {α β : Type} (remote : Remote) (context : Context) (path : Except Fault String)
    (reader : Json → Except Fault α) (reader' : Json → Except Fault β) :
    (remote.ask context path reader).2 = (remote.ask context path reader').2 := by
  cases path with
  | error fault => rfl
  | ok path => rw [ask_ok, ask_ok]

/-- Names that are texts are asked for. -/
theorem listTables_eq (remote : Remote) (context : Context) (schema : String) :
    remote.listTables context schema =
      ((remote.get context (tablesPath schema)).1.bind (listingOf schema),
        (remote.get context (tablesPath schema)).2) :=
  remote.ask_ok context (tablesPath schema) (listingOf schema)

theorem tableStructure_eq (remote : Remote) (context : Context) (schema name : String) :
    remote.tableStructure context schema name =
      ((remote.get context (structurePath schema name)).1.bind (structureOf schema name),
        (remote.get context (structurePath schema name)).2) :=
  remote.ask_ok context (structurePath schema name) (structureOf schema name)

def after (remote : Remote) (context : Context) : Inquiry → Remote
  | .tables schema => (remote.listTables context schema).2
  | .table schema name => (remote.tableStructure context schema name).2

theorem after_eq (remote : Remote) (context : Context) (inquiry : Inquiry) :
    remote.after context inquiry = (remote.get context inquiry.path).2 := by
  cases inquiry with
  | tables schema => rw [after, listTables_eq, Inquiry.path]
  | table schema name => rw [after, tableStructure_eq, Inquiry.path]

theorem ready_eq (remote : Remote) : remote.ready = { remote with client := remote.ready.client } := by
  unfold ready
  split <;> rfl

/-- What is had from a service is what its answer to the request means, and the client is left with the cookies
of the answer. -/
theorem get_eq (remote : Remote) (context : Context) (path : String) :
    remote.get context path =
      match remote.base.reach context.requestHeaders.authorization path with
      | .error fault => (.error fault, remote.ready)
      | .ok address =>
        let request := remote.requestAt context address
        (contentOf path address (remote.service request),
          { remote with
            client := remote.ready.client.receive address (remote.service request)
            sent := remote.sent ++ [request] }) := by
  rw [get, base]
  cases remote.ready.client.base.reach context.requestHeaders.authorization path with
  | error fault => rfl
  | ok address =>
    simp only [requestAt]
    rw [remote.ready_eq]

variable {remote : Remote} {context : Context}

/-- The address that a source asks for something at, when the root of its service is at an address. Where
steps are taken, fewer parts are left. -/
theorem reach_path (hroot : remote.base.target = ['/']) :
    ∃ placed : Bool, (remote.base.scheme ≠ [] → placed = true) ∧ ∀ inquiry : Inquiry,
      inquiry.path.length ≤ longestAddress → ∀ authorization,
      remote.base.reach authorization inquiry.path =
        (remote.base.reach authorization "/").map fun root =>
          { root with
            path := joined (if placed then takeSteps [] inquiry.parts else inquiry.parts) } := by
  obtain ⟨placed, hplaced, hreach⟩ := Address.reach_joined hroot
  refine ⟨placed, hplaced, fun inquiry hlength authorization => ?_⟩
  have hpath : String.ofList (joined inquiry.parts) = inquiry.path := by
    rw [← inquiry.toList_path, String.ofList_toList]
  rw [← hpath]
  apply hreach _ inquiry.areParts
  rwa [← inquiry.toList_path, String.length_toList]

theorem sent_of_unreached {inquiry : Inquiry} {fault : Fault}
    (h : remote.base.reach context.requestHeaders.authorization inquiry.path = .error fault) :
    (remote.after context inquiry).sent = remote.sent := by
  rw [after_eq, get_eq, h, ready_eq]

private theorem sent_of_reached {inquiry : Inquiry} {address : Address}
    (h : remote.base.reach context.requestHeaders.authorization inquiry.path = .ok address) :
    (remote.after context inquiry).sent = remote.sent ++ [remote.requestAt context address] := by
  rw [after_eq, get_eq, h]

theorem reach_of_too_long {inquiry : Inquiry} (hlength : ¬ inquiry.path.length ≤ longestAddress)
    (authorization : Option CodeString) :
    remote.base.reach authorization inquiry.path = .error (.address .tooLong) := by
  have hresolve : remote.base.resolve inquiry.path = .error .tooLong := by
    rw [← String.ofList_toList (s := inquiry.path)]
    apply Address.resolve_of_too_long
    rw [String.length_toList]
    omega
  rw [Address.reach, hresolve]
  rfl

theorem path_requestTo {root : Address} (hquery : root.query = none) (headers : RequestHeaders)
    (cookie : Option String) {path : List Char} (hpath : path ≠ []) :
    (requestTo { root with path := path } headers cookie).path = String.ofList path := by
  cases path with
  | nil => exact absurd rfl hpath
  | cons c rest => simp [requestTo, Address.target, hquery, Address.marked]

/-- When steps were taken, the path that is left tells of something else. -/
theorem not_isToldBy_of_steps {inquiry : Inquiry} (h : inquiry.isPlain = false) {root : Address}
    (hquery : root.query = none) (headers : RequestHeaders) (cookie : Option String) :
    ¬ inquiry.IsToldBy
      (requestTo { root with path := joined (takeSteps [] inquiry.parts) } headers cookie).path := by
  intro htold
  have hlength := htold.length_segments
  have hless : (takeSteps [] inquiry.parts).length < inquiry.parts.length := by
    have hstep : ∃ part ∈ inquiry.parts, part = ['.'] ∨ part = ['.', '.'] := by
      by_contra hnone
      refine absurd (inquiry.isPlain_iff.2 fun part hpart => ?_) (by simp [h])
      exact ⟨fun hdot => hnone ⟨part, hpart, .inl hdot⟩, fun hdots => hnone ⟨part, hpart, .inr hdots⟩⟩
    simpa using length_takeSteps_lt [] hstep
  have hparts : 2 < inquiry.parts.length := by
    cases inquiry <;> simp [Inquiry.parts]
  by_cases hempty : joined (takeSteps [] inquiry.parts) = []
  · rw [hempty] at hlength
    have hslash : (requestTo { root with path := [] } headers cookie).path = "/" := by
      simp [requestTo, Address.target, hquery, Address.marked]
    rw [hslash] at hlength
    have htwo : (segments "/".toList).length = 2 := by decide +kernel
    omega
  · rw [path_requestTo hquery headers cookie hempty, String.toList_ofList, segments_joined] at hlength
    · omega
    · intro hnil
      rw [hnil] at hempty
      exact hempty rfl
    · intro part hpart
      exact inquiry.areParts.not_slash part ((mem_takeSteps hpart).resolve_left (by simp))

/-- The path of a plain question is sent as it is, whether steps are taken or not. -/
theorem path_of_plain {inquiry : Inquiry} (h : inquiry.isPlain) (placed : Bool) :
    joined (if placed then takeSteps [] inquiry.parts else inquiry.parts) = inquiry.path.toList := by
  rw [inquiry.toList_path, takeSteps_eq_append (inquiry.isPlain_iff.1 h)]
  cases placed <;> rfl

/-- The parts of a path that is sent are those that were asked for, or what is left of them. -/
theorem path_of_sent (hroot : remote.base.target = ['/']) {inquiry : Inquiry}
    (hlength : inquiry.path.length ≤ longestAddress) {root : Address}
    (hreach : remote.base.reach context.requestHeaders.authorization "/" = .ok root) :
    ∃ (placed : Bool) (cookie : Option String), (remote.base.scheme ≠ [] → placed = true) ∧
      (remote.after context inquiry).sent = remote.sent ++
        [requestTo { root with
          path := joined (if placed then takeSteps [] inquiry.parts else inquiry.parts) }
          context.requestHeaders cookie] := by
  obtain ⟨placed, hplaced, hpath⟩ := reach_path hroot
  refine ⟨placed, _, hplaced, sent_of_reached ?_⟩
  rw [hpath inquiry hlength, hreach]
  rfl

private theorem not_query_of_parts {root : Address} (hquery : root.query = none) (headers : RequestHeaders)
    (cookie : Option String) {parts : List (List Char)}
    (h : ∀ part ∈ parts, ∀ c ∈ part, isSegmentChar c) :
    '?' ∉ (requestTo { root with path := joined parts } headers cookie).path.toList := by
  by_cases hempty : joined parts = []
  · have hslash : (requestTo { root with path := [] } headers cookie).path = "/" := by
      simp [requestTo, Address.target, hquery, Address.marked]
    rw [hempty, hslash]
    decide
  · rw [path_requestTo hquery headers cookie hempty, String.toList_ofList]
    intro hmark
    have hchar := isPathChar_of_mem_joined h _ hmark
    revert hchar
    decide

/-- What the path of one request tells. -/
theorem told_of_sent (hroot : remote.base.target = ['/']) {inquiry : Inquiry}
    {request : HttpRequest} (h : (remote.after context inquiry).sent = remote.sent ++ [request]) :
    '?' ∉ request.path.toList ∧ (inquiry.isPlain → inquiry.IsToldBy request.path) ∧
      (remote.base.scheme ≠ [] → inquiry.IsToldBy request.path → inquiry.isPlain) := by
  by_cases hlength : inquiry.path.length ≤ longestAddress
  · cases hreach : remote.base.reach context.requestHeaders.authorization "/" with
    | error fault =>
        obtain ⟨placed, -, hpath⟩ := reach_path hroot
        have hunreached := hpath inquiry hlength context.requestHeaders.authorization
        rw [hreach] at hunreached
        simp [sent_of_unreached hunreached] at h
    | ok root =>
        obtain ⟨placed, cookie, hplaced, hsent⟩ := path_of_sent hroot hlength hreach
        have hquery := Address.query_of_reach hroot hreach
        obtain rfl : _ = request := by simpa using hsent.symm.trans h
        refine ⟨not_query_of_parts hquery _ cookie ?_, ?_, ?_⟩
        · intro part hpart
          cases placed with
          | true => exact inquiry.areParts.chars part ((mem_takeSteps hpart).resolve_left (by simp))
          | false => exact inquiry.areParts.chars part hpart
        · intro hplain
          rw [path_of_plain hplain, path_requestTo hquery _ cookie inquiry.toList_path_ne_nil,
            inquiry.toList_path]
          exact inquiry.isToldBy_joined
        · intro hscheme htold
          rw [hplaced hscheme] at htold
          by_contra hplain
          exact not_isToldBy_of_steps (Bool.eq_false_iff.2 hplain) hquery _ cookie htold
  · simp [sent_of_unreached (reach_of_too_long hlength _)] at h

/-- Whether a question leads to a request. -/
theorem sent_cases (hroot : remote.base.target = ['/']) (context : Context) (inquiry : Inquiry) :
    ∃ requests, (remote.after context inquiry).sent = remote.sent ++ requests ∧
      requests.length =
        if (remote.base.reach context.requestHeaders.authorization "/").isOk ∧
          inquiry.path.length ≤ longestAddress then 1 else 0 := by
  by_cases hlength : inquiry.path.length ≤ longestAddress
  · cases hreach : remote.base.reach context.requestHeaders.authorization "/" with
    | error fault =>
        obtain ⟨placed, -, hpath⟩ := reach_path hroot
        have hunreached := hpath inquiry hlength context.requestHeaders.authorization
        rw [hreach] at hunreached
        exact ⟨[], by rw [sent_of_unreached hunreached, List.append_nil],
          by simp [Except.isOk, Except.toBool]⟩
    | ok root =>
        obtain ⟨placed, cookie, -, hsent⟩ := path_of_sent hroot hlength hreach
        exact ⟨_, hsent, by simp [Except.isOk, Except.toBool, hlength]⟩
  · exact ⟨[], by rw [sent_of_unreached (reach_of_too_long hlength _), List.append_nil],
      by simp [hlength]⟩

/-- A source without a path of its own sends one request for each question, unless the path is too long or
the service cannot be reached at all. The request has no query, and its path tells what was asked for
unless a name looks like a step; where the address has a scheme, it does so in no other case. So different
questions never lead to the same path. -/
theorem requests_tell_names {remote : Remote} (hroot : remote.base.target = ['/'])
    (context : Context) (inquiry : Inquiry) :
    ∃ requests, (remote.after context inquiry).sent = remote.sent ++ requests ∧
      (requests.length =
        if (remote.base.reach context.requestHeaders.authorization "/").isOk ∧
          inquiry.path.length ≤ longestAddress then 1 else 0) ∧
      ∀ request ∈ requests,
        '?' ∉ request.path.toList ∧
        (inquiry.isPlain → inquiry.IsToldBy request.path) ∧
        (remote.base.scheme ≠ [] → inquiry.IsToldBy request.path → inquiry.isPlain) ∧
        ∀ (other : Remote) (context' : Context) (inquiry' : Inquiry) (request' : HttpRequest),
          other.base.target = ['/'] → inquiry.isPlain → inquiry'.isPlain →
          (other.after context' inquiry').sent = other.sent ++ [request'] →
          request.path = request'.path → inquiry = inquiry' := by
  obtain ⟨requests, hsent, hlength⟩ := sent_cases hroot context inquiry
  refine ⟨requests, hsent, hlength, fun request hmem => ?_⟩
  have hone : requests = [request] := by
    have hatmost : requests.length ≤ 1 := by
      rw [hlength]
      split <;> omega
    match requests, hatmost with
    | [first], _ => rw [List.mem_singleton.1 hmem]
    | [], _ => cases hmem
  rw [hone] at hsent
  obtain ⟨hquery, htold, honly⟩ := told_of_sent hroot hsent
  refine ⟨hquery, htold, honly, ?_⟩
  intro other context' inquiry' request' hother hplain hplain' hsent' hsame
  have htold' := (told_of_sent hother hsent').2.1 hplain'
  rw [← hsame] at htold'
  exact (htold hplain).unique htold'

/-- A source for a service that has nothing, at an address. -/
def ofAddress (address : Address) : Remote :=
  ⟨address, .opened address, .silent, fun _ => .answered 404 (.text ""), []⟩

/-- A source for a service at the root of a host. -/
def ofHost : Remote :=
  ofAddress ⟨"http".toList, [], "metadata.test".toList, none, [], none, none⟩

/-- Marks of addresses and letters beyond ASCII stay inside of the segments of their names. -/
theorem requests_tell_names_of_marks :
    let inquiry : Inquiry := .table "a/b?c" "#../ü%2F"
    connect "http://metadata.test" .silent (fun _ => .answered 404 (.text "")) = .ok ofHost ∧
      ofHost.base.target = ['/'] ∧
      ∃ request, (ofHost.after .empty inquiry).sent = [request] ∧ inquiry.IsToldBy request.path := by
  intro inquiry
  have hroot : ofHost.base.target = ['/'] := by decide +kernel
  obtain ⟨requests, hsent, hlength, htell⟩ := requests_tell_names hroot .empty inquiry
  have hone : requests.length = 1 := by
    rw [hlength, if_pos (by decide +kernel)]
  obtain ⟨request, rfl⟩ := List.length_eq_one_iff.1 hone
  exact ⟨rfl, hroot, request, hsent, (htell request List.mem_cons_self).2.1 (by decide +kernel)⟩

/-- A schema whose name is a step is lost on the way to the service, and two tables share one path. -/
theorem names_lost_by_steps :
    connect "http://metadata.test" .silent (fun _ => .answered 404 (.text "")) = .ok ofHost ∧
      ofHost.base.target = ['/'] ∧
      (ofHost.after .empty (.tables "..")).sent.map (·.path) = ["/api/tables"] ∧
      ¬ (Inquiry.tables "..").IsToldBy "/api/tables" ∧
      (ofHost.after .empty (.table "." "table")).sent.map (·.path) =
        ["/api/schema/table/table/structure"] ∧
      (ofHost.after .empty (.table "table" ".")).sent.map (·.path) =
        ["/api/schema/table/table/structure"] := by
  refine ⟨rfl, by decide +kernel, by decide +kernel, ?_, by decide +kernel, by decide +kernel⟩
  intro htold
  have hlength : (segments "/api/tables".toList).length = 5 := htold.length_segments
  revert hlength
  decide +kernel

end Remote

end ErDiagram
