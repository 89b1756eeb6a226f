import ErDiagram.Proofs.Source.Served

/-!
# What the answers of a service come to

A question ends with a value or with a fault of the service, whatever the service answers and however the
transport breaks. It ends with a value exactly when the status tells of no error and the body is JSON that
describes what was asked for. A status that tells of an error goes into the fault, with the error that the
body names or with the status line; no other fault has a status. What the client refuses to do on its own
is no answer.
-/

namespace ErDiagram

open Uri

namespace HttpAnswer

/-- Whether an answer is one of the service or of the transport: a body is JSON or is found to be none,
and what broke has the name of its kind. -/
inductive IsProper : HttpAnswer → Prop
  | answered {status : Int} {body : HttpBody} {cookies : List String} {content : Option Json}
      (read : body.value? = .ok content) : IsProper (.answered status body cookies)
  | broken {kind : String} {message : CodeString} (named : kind ≠ "") : IsProper (.broken kind message)

/-- Whether a status is one of the four hundreds or of the five hundreds. -/
def IsRefused (status : Int) : Prop := status / 100 = 4 ∨ status / 100 = 5

instance (status : Int) : Decidable (IsRefused status) := inferInstanceAs (Decidable (_ ∨ _))

/-- Whether an answer brings a value: its status tells of no error, and its body is the JSON of the
value. -/
inductive Brings (value : Json) : HttpAnswer → Prop
  | answered {status : Int} {body : HttpBody} {cookies : List String} (fine : ¬ IsRefused status)
      (read : body.value? = .ok (some value)) : Brings value (.answered status body cookies)

/-- Whether the content of a body is an object with an error that says something. -/
def NamesError (content : Option Json) (error : Json) : Prop :=
  ∃ fields, content = some (.obj fields) ∧ Json.field? fields "error" = some error ∧ error.saysSomething

/-- Whether an answer from an address refuses what was asked for, with a status and a message: the error
that the body names, or the status line when it names none. -/
inductive Refuses (address : Address) (status : Int) : CodeString → HttpAnswer → Prop
  | named {body : HttpBody} {cookies : List String} {content : Option Json} {error : Json}
      (refused : IsRefused status) (read : body.value? = .ok content)
      (named : NamesError content error) :
      Refuses address status error.display (.answered status body cookies)
  | unnamed {body : HttpBody} {cookies : List String} {content : Option Json}
      (refused : IsRefused status) (read : body.value? = .ok content)
      (unnamed : ∀ error, ¬ NamesError content error) :
      Refuses address status ("HTTP " ++ toString status ++ " from " ++ address.text)
        (.answered status body cookies)

/-- How what a question ends with corresponds to the answer from an address, where a value has to describe
a result. -/
structure Classifies {α : Type} (answer : HttpAnswer) (address : Address) (Describes : Json → α → Prop)
    (outcome : Except Fault α) : Prop where
  promised : IsPromised outcome
  result_iff : ∀ result, outcome = .ok result ↔ ∃ value, answer.Brings value ∧ Describes value result
  refused_iff : ∀ message status, outcome = .error (.service message (some status)) ↔
    Refuses address status message answer
  broken : ∀ kind text, answer = .broken kind text → ∃ message : CodeString, message ≠ "" ∧
    message = (if text = "" then .whole kind else text) ∧ outcome = .error (.service message none)

theorem isError_iff {status : Int} : isError status ↔ IsRefused status := by
  simp only [isError, IsRefused, Bool.and_eq_true, decide_eq_true_eq]
  omega

theorem errorIn?_eq_some_iff {content : Option Json} {text : CodeString} :
    errorIn? content = some text ↔ ∃ error, NamesError content error ∧ error.display = text := by
  cases content with
  | none => simp [errorIn?, NamesError]
  | some value =>
      cases value with
      | obj fields => simp [errorIn?, NamesError, Option.filter_eq_some_iff, and_assoc]
      | _ => simp [errorIn?, NamesError]

variable {address : Address} {status : Int} {body : HttpBody} {cookies : List String}
  {content : Option Json}

theorem brings_iff (hread : body.value? = .ok content) {value : Json} :
    Brings value (.answered status body cookies) ↔ ¬ IsRefused status ∧ content = some value := by
  constructor
  · rintro ⟨fine, read⟩
    exact ⟨fine, Except.ok.inj (hread.symm.trans read)⟩
  · rintro ⟨fine, rfl⟩
    exact .answered fine hread

/-- The message of a refusal is what the service says of the error, in as many words as there are. -/
theorem refuses_iff (hread : body.value? = .ok content) {code : Int} {message : CodeString} :
    Refuses address code message (.answered status body cookies) ↔
      code = status ∧ IsRefused status ∧
        (errorIn? content).getD ("HTTP " ++ toString status ++ " from " ++ address.text) = message := by
  constructor
  · intro h
    cases h with
    | named refused read named =>
        cases hread.symm.trans read
        exact ⟨rfl, refused, by rw [errorIn?_eq_some_iff.2 ⟨_, named, rfl⟩, Option.getD_some]⟩
    | unnamed refused read unnamed =>
        cases hread.symm.trans read
        have hnone : errorIn? content = none := by
          rw [Option.eq_none_iff_forall_ne_some]
          intro text htext
          obtain ⟨error, named, -⟩ := errorIn?_eq_some_iff.1 htext
          exact unnamed error named
        exact ⟨rfl, refused, by rw [hnone, Option.getD_none]⟩
  · rintro ⟨rfl, refused, rfl⟩
    cases herror : errorIn? content with
    | some text =>
        obtain ⟨error, named, rfl⟩ := errorIn?_eq_some_iff.1 herror
        exact .named refused hread named
    | none =>
        refine .unnamed refused hread fun error named => ?_
        have hsome := errorIn?_eq_some_iff.2 ⟨error, named, rfl⟩
        rw [herror] at hsome
        cases hsome

end HttpAnswer

namespace Remote

variable {α : Type} {Describes : Json → α → Prop} {reader : Json → Except Fault α}
variable {address : Address} {path : String} {status : Int} {body : HttpBody} {cookies : List String}
  {content : Option Json}

/-- Whether a reader finds in a value the result that it describes, and otherwise a fault of the service
without a status. -/
structure ReadsWhat (Describes : Json → α → Prop) (reader : Json → Except Fault α) : Prop where
  ok_iff : ∀ {value result}, reader value = .ok result ↔ Describes value result
  fault : ∀ {value fault}, reader value = .error fault → ∃ message, fault = .service message none

private theorem contentOf_of_refused (hkind : address.saysKind) (hread : body.value? = .ok content)
    (h : HttpAnswer.IsRefused status) :
    contentOf path address (.answered status body cookies) = .error (.service
      ((HttpAnswer.errorIn? content).getD ("HTTP " ++ toString status ++ " from " ++ address.text))
      (some status)) := by
  simp only [contentOf, hkind, hread, HttpAnswer.isError_iff.2 h, bind, Except.bind]
  rfl

private theorem contentOf_of_fine (hkind : address.saysKind) (hread : body.value? = .ok content)
    (h : ¬ HttpAnswer.IsRefused status) :
    contentOf path address (.answered status body cookies) =
      content.elim (.error (.service ("Invalid JSON from " ++ path) none)) .ok := by
  have hfine : HttpAnswer.isError status = false := by
    rwa [← HttpAnswer.isError_iff, Bool.not_eq_true] at h
  simp only [contentOf, hkind, hread, hfine, bind, Except.bind]
  cases content <;> rfl

/-- What is read from an answer with a body. -/
theorem classifies_answered (hreads : ReadsWhat Describes reader) (hkind : address.saysKind)
    (hread : body.value? = .ok content) :
    (HttpAnswer.answered status body cookies).Classifies address Describes
      ((contentOf path address (.answered status body cookies)).bind reader) := by
  by_cases hrefused : HttpAnswer.IsRefused status
  · rw [contentOf_of_refused hkind hread hrefused]
    refine ⟨.service _ _, fun result => ?_, fun message code => ?_, nofun⟩
    · simp [Except.bind, HttpAnswer.brings_iff hread, hrefused]
    · simp [Except.bind, HttpAnswer.refuses_iff hread, hrefused, and_comm, eq_comm]
  · rw [contentOf_of_fine hkind hread hrefused]
    cases content with
    | none =>
        refine ⟨.service _ _, fun result => ?_, fun message code => ?_, nofun⟩
        · simp [Except.bind, HttpAnswer.brings_iff hread]
        · simp [Except.bind, HttpAnswer.refuses_iff hread, hrefused]
    | some value =>
        refine ⟨?_, fun result => ?_, fun message code => ?_, nofun⟩
        · cases hvalue : reader value with
          | ok result => simpa only [Except.bind, Option.elim_some, hvalue] using .value result
          | error fault =>
              obtain ⟨message, rfl⟩ := hreads.fault hvalue
              simpa only [Except.bind, Option.elim_some, hvalue] using .service message none
        · simp [Except.bind, HttpAnswer.brings_iff hread, hrefused, hreads.ok_iff]
        · simp only [Except.bind, Option.elim_some, HttpAnswer.refuses_iff hread, hrefused, false_and,
            and_false, iff_false]
          intro hfault
          obtain ⟨_, hnone⟩ := hreads.fault hfault
          cases hnone

theorem classifies_contentOf (hreads : ReadsWhat Describes reader) {answer : HttpAnswer}
    (hkind : ∀ status body cookies, answer = .answered status body cookies → address.saysKind) (h : answer.IsProper) :
    answer.Classifies address Describes ((contentOf path address answer).bind reader) := by
  cases h with
  | answered read => exact classifies_answered hreads (hkind _ _ _ rfl) read
  | @broken kind text named =>
      refine ⟨.service _ _, fun result => ⟨nofun, nofun⟩, fun message code => ⟨nofun, nofun⟩, ?_⟩
      rintro _ _ ⟨⟩
      refine ⟨_, ?_, rfl, rfl⟩
      split
      · exact fun h => named (CodeString.whole.inj h)
      · assumption

/-- Whether a value lists rows: the items of a list describe them one by one, and another value lists
none. -/
inductive ListsRows : Json → Listing → Prop
  | items {items : List Json} {rows : List ListedTable} (each : List.Forall₂ DescribesRow items rows) :
      ListsRows (.arr items) (.tables rows)
  | unlisted {value : Json} (unlisted : ∀ items, value ≠ .arr items) : ListsRows value (.tables [])

private theorem listingOf_arr_eq_ok_iff {schema : CodeString} {items : List Json} {listing : Listing} :
    listingOf schema (.arr items) = .ok listing ↔
      ∃ rows, items.mapM ListedTable.ofJson = .ok rows ∧ listing = .tables rows := by
  rw [listingOf]
  cases items.mapM ListedTable.ofJson <;> simp [eq_comm]

private theorem readsWhat_listingOf (schema : CodeString) : ReadsWhat ListsRows (listingOf schema) where
  ok_iff := by
    intro value listing
    cases value with
    | arr items =>
        rw [listingOf_arr_eq_ok_iff]
        simp only [mapM_eq_ok_iff_forall₂, ListedTable.ofJson_eq_ok_iff]
        constructor
        · rintro ⟨rows, each, rfl⟩
          exact .items each
        · rintro (⟨each⟩ | unlisted)
          · exact ⟨_, each, rfl⟩
          · exact absurd rfl (unlisted items)
    | _ =>
        constructor
        · rintro ⟨⟩
          exact .unlisted nofun
        · rintro ⟨⟩
          rfl
  fault := by
    intro value fault h
    cases value with
    | arr items =>
        rw [listingOf] at h
        cases hrows : items.mapM ListedTable.ofJson with
        | ok rows => simp [hrows] at h
        | error cause =>
            simp only [hrows, Except.error.injEq] at h
            exact ⟨_, h.symm⟩
    | _ => cases h

private theorem readsWhat_structureOf (schema name : CodeString) :
    ReadsWhat DescribesStructure (structureOf schema name) where
  ok_iff := by
    intro value raw
    rw [← RawStructure.ofJson_eq_ok_iff, structureOf]
    cases RawStructure.ofJson value <;> simp
  fault := by
    intro value fault h
    rw [structureOf] at h
    cases hraw : RawStructure.ofJson value with
    | ok raw => simp [hraw] at h
    | error cause =>
        simp only [hraw, Except.error.injEq] at h
        exact ⟨_, h.symm⟩

/-- Whether the question that a source asks is answered from an address: the client reaches the address and
takes a body that comes from there, and what comes is an answer of the service or of the transport. A name
that cannot be sent is never asked about, and so there is no answer to classify. -/
structure IsAnswered (remote : Remote) (context : Context) (inquiry : Inquiry) (address : Address)
    (answer : HttpAnswer) : Prop where
  reached : remote.base.reach context.requestHeaders.authorization inquiry.path = .ok address
  taken : ∀ status body cookies, answer = .answered status body cookies → address.saysKind
  told : remote.service (remote.requestAt context address) = answer
  proper : answer.IsProper

variable {remote : Remote} {context : Context} {inquiry : Inquiry} {answer : HttpAnswer}

theorem IsAnswered.content_get (h : remote.IsAnswered context inquiry address answer) :
    (remote.get context inquiry.path).1 = contentOf inquiry.path address answer := by
  simp only [Remote.content_get, h.reached, h.told]

/-- Whatever the service answers to a question and however the transport breaks, the question ends with
what the source promises. A list is had exactly from an answer that brings one, with a row for each of its
items, or a value that is no list; a structure is had exactly from an answer that brings one. A fault has a
status exactly when the answer refuses the question, with the message of the refusal, and a broken transport
is never told without a word. -/
theorem answers_classified (remote : Remote) (context : Context) :
    (∀ schema address answer, remote.IsAnswered context (.tables schema) address answer →
      answer.Classifies address ListsRows (remote.listTables context schema).1) ∧
    ∀ schema name address answer, remote.IsAnswered context (.table schema name) address answer →
      answer.Classifies address DescribesStructure (remote.tableStructure context schema name).1 := by
  constructor
  · intro schema address answer h
    have hcontent := h.content_get
    rw [Inquiry.path] at hcontent
    simp only [listTables_eq, hcontent]
    exact classifies_contentOf (readsWhat_listingOf schema) h.taken h.proper
  · intro schema name address answer h
    have hcontent := h.content_get
    rw [Inquiry.path] at hcontent
    simp only [tableStructure_eq, hcontent]
    exact classifies_contentOf (readsWhat_structureOf schema name) h.taken h.proper

def twofoldError : Json := .obj [("error", .arr [.str "gone", .int 5])]

/-- A service that refuses to list the tables and redirects other questions, with a structure of nothing. -/
def refusing (request : HttpRequest) : HttpAnswer :=
  if request.path = "/api/schema/a/tables" then .answered 404 (.json twofoldError)
  else .answered 302 (.json (.obj []))

/-- The error of a refusal becomes the message, and a redirection with a structure brings it. -/
theorem answers_classified_of_refusing :
    let remote : Remote := { ofHost with service := refusing }
    let address (path : String) : Address :=
      ⟨"http".toList, [], "metadata.test".toList, none, path.toList, none, none⟩
    remote.IsAnswered .empty (.tables "a") (address "/api/schema/a/tables")
        (.answered 404 (.json twofoldError)) ∧
      (remote.listTables .empty "a").1 = .error (.service "['gone', 5]" (some 404)) ∧
      remote.IsAnswered .empty (.table "a" "b") (address "/api/schema/a/table/b/structure")
        (.answered 302 (.json (.obj []))) ∧
      (remote.tableStructure .empty "a" "b").1 = .ok ⟨[], [], []⟩ := by
  intro remote address
  have hrefused : ∀ request, request.path = "/api/schema/a/tables" →
      remote.service request = .answered 404 (.json twofoldError) := fun _ hpath => if_pos hpath
  have hmoved : ∀ request, request.path ≠ "/api/schema/a/tables" →
      remote.service request = .answered 302 (.json (.obj [])) := fun _ hpath => if_neg hpath
  have hlist : remote.IsAnswered .empty (.tables "a") (address "/api/schema/a/tables")
      (.answered 404 (.json twofoldError)) :=
    ⟨eq_ok_of_toOption (by decide +kernel), fun _ _ _ _ => by decide +kernel, hrefused _ (by decide +kernel),
      .answered rfl⟩
  have htable : remote.IsAnswered .empty (.table "a" "b") (address "/api/schema/a/table/b/structure")
      (.answered 302 (.json (.obj []))) :=
    ⟨eq_ok_of_toOption (by decide +kernel), fun _ _ _ _ => by decide +kernel, hmoved _ (by decide +kernel),
      .answered rfl⟩
  obtain ⟨hlists, htables⟩ := answers_classified remote .empty
  refine ⟨hlist, ((hlists _ _ _ hlist).refused_iff _ _).2 ?_, htable,
    ((htables _ _ _ _ htable).result_iff _).2 ⟨.obj [], .answered (by decide) rfl, _, rfl, rfl⟩⟩
  have hdisplay : (Json.arr [.str "gone", .int 5]).display = "['gone', 5]" := by decide +kernel
  rw [← hdisplay]
  exact .named (.inl rfl) rfl ⟨_, rfl, by rfl, rfl⟩

end Remote

end ErDiagram
