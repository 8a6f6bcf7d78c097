import MediaFilter.Http.Response
import MediaFilter.Proofs.Json.Records
import MediaFilter.Proofs.Text.Trimming

/-!
How a failure of the backend is explained.  A body in one of the known forms is believed, even where
it gives a blank text; another body speaks for itself; and a blank one leaves it to the status.
-/

namespace MediaFilter

inductive Notice.Denotes (json : Json) : Notice → Prop
  | notice {message : String} {field : Option Json} {kind : Option String}
      (holds : json.Holds ["message", "type"] [some (.text message), field])
      (told : Json.Says .text field kind) : Denotes json ⟨message, kind⟩

theorem Notice.ofJson?_eq_some_iff {json : Json} {notice : Notice} :
    ofJson? json = some notice ↔ Denotes json notice := by
  constructor
  · intro read
    unfold ofJson? at read
    split at read
    · rename_i message field given
      simp only [Option.bind_eq_bind, Option.bind_eq_some_iff,
        Json.required_eq_some_iff fun _ _ => Json.text?_eq_some_iff,
        Json.optional_eq_some_iff (fun _ _ => Json.text?_eq_some_iff) fun _ => nofun] at read
      obtain ⟨text, rfl, kind, told, whole⟩ := read
      cases whole
      exact .notice (Json.fields?_ignored_eq_some_iff.1 given) told
    · cases read
  · rintro ⟨holds, told⟩
    have kind := (Json.optional_eq_some_iff (fun _ _ => Json.text?_eq_some_iff)
      fun _ => nofun).2 told
    rw [ofJson?, Json.fields?_ignored_eq_some_iff.2 holds]
    simp [Json.required, Json.text?, kind]

namespace Http

inductive Notices (fields : List (String × Json)) : List Notice → Prop
  | listed {items : List Json} {notices : List Notice}
      (found : Json.named "error" fields = [.list items])
      (denoted : List.Forall₂ Notice.Denotes items notices) : Notices fields notices

/-- What the fields of a body say.  Notices come before a message, and that before a detail. -/
inductive Explains (fields : List (String × Json)) : String → Prop
  | notices {notices : List Notice} (listed : Notices fields notices) :
      Explains fields (String.intercalate "; " (notices.map Notice.message))
  | message {text : String} (unlisted : ∀ notices, ¬Notices fields notices)
      (found : Json.named "message" fields = [.text text]) : Explains fields text
  | detail {text : String} (unlisted : ∀ notices, ¬Notices fields notices)
      (untold : ∀ other, Json.named "message" fields ≠ [.text other])
      (found : Json.named "detail" fields = [.text text]) : Explains fields text

def Explained (body text : String) : Prop :=
  ∃ fields, Json.read? body = some (.record fields) ∧
    (Json.record fields).keepable Json.greatestDepth = true ∧ Explains fields text

theorem exists_field_iff {name : String} {fields : List (String × Json)}
    {read : Json → Option α} {value : α} :
    (∃ found, Json.namedFields? [name] .ignored fields = some found ∧
      Json.required read found.head?.join = some value) ↔
        ∃ json, Json.named name fields = [json] ∧ read json = some value := by
  simp only [Json.namedFields?_ignored_eq_some_iff, List.map_cons, List.map_nil]
  constructor
  · rintro ⟨_ | ⟨_ | json, _ | _⟩, given, found⟩
    all_goals simp_all [Json.required]
  · rintro ⟨json, given, found⟩
    exact ⟨[some json], by rw [given]; rfl, found⟩

namespace Response

theorem noticesIn?_eq_some_iff {fields : List (String × Json)} {text : String} :
    noticesIn? fields = some text ↔ ∃ notices, Notices fields notices ∧
      String.intercalate "; " (notices.map Notice.message) = text := by
  have listed : ∀ notices, (∃ json, Json.named "error" fields = [json] ∧
      Json.listOf Notice.ofJson? json = some notices) ↔ Notices fields notices := by
    intro notices
    constructor
    · rintro ⟨json, found, read⟩
      cases json with
      | list items =>
          rw [Json.listOf, Json.each_eq_some_iff] at read
          exact .listed found (read.imp fun _ _ => Notice.ofJson?_eq_some_iff.1)
      | _ => cases read
    · rintro ⟨found, denoted⟩
      refine ⟨_, found, ?_⟩
      rw [Json.listOf, Json.each_eq_some_iff]
      exact denoted.imp fun _ _ => Notice.ofJson?_eq_some_iff.2
  simp only [noticesIn?, Option.bind_eq_bind, Option.bind_eq_some_iff, Option.some.injEq]
  constructor
  · rintro ⟨found, given, notices, read, told⟩
    exact ⟨notices, (listed notices).1 (exists_field_iff.1 ⟨found, given, read⟩), told⟩
  · rintro ⟨notices, isListed, told⟩
    obtain ⟨found, given, read⟩ := exists_field_iff.2 ((listed notices).2 isListed)
    exact ⟨found, given, notices, read, told⟩

theorem textIn?_eq_some_iff {name : String} {fields : List (String × Json)} {text : String} :
    textIn? name fields = some text ↔ Json.named name fields = [.text text] := by
  simp only [textIn?, Option.bind_eq_bind, Option.bind_eq_some_iff, exists_field_iff,
    Json.text?_eq_some_iff, exists_eq_right]

theorem noticesIn?_eq_none_iff {fields : List (String × Json)} :
    noticesIn? fields = none ↔ ∀ notices, ¬Notices fields notices := by
  rw [Option.eq_none_iff_forall_ne_some]
  simp only [ne_eq, noticesIn?_eq_some_iff, not_exists, not_and]
  exact ⟨fun unread notices listed => unread _ notices listed rfl,
    fun unlisted _ notices listed => absurd listed (unlisted notices)⟩

theorem explains_iff {fields : List (String × Json)} {text : String} :
    (noticesIn? fields <|> textIn? "message" fields <|> textIn? "detail" fields) = some text ↔
      Explains fields text := by
  have untold : textIn? "message" fields = none ↔
      ∀ other, Json.named "message" fields ≠ [.text other] := by
    simp only [Option.eq_none_iff_forall_ne_some, ne_eq, textIn?_eq_some_iff]
  simp only [Option.orElse_eq_orElse, Option.orElse_eq_or, Option.or_eq_some_iff, untold,
    noticesIn?_eq_none_iff, noticesIn?_eq_some_iff, textIn?_eq_some_iff]
  constructor
  · rintro (⟨notices, listed, rfl⟩ | ⟨unlisted, found | ⟨untold, found⟩⟩)
    · exact .notices listed
    · exact .message unlisted found
    · exact .detail unlisted untold found
  · intro explains
    cases explains with
    | notices listed => exact .inl ⟨_, listed, rfl⟩
    | message unlisted found => exact .inr ⟨unlisted, .inl found⟩
    | detail unlisted untold found => exact .inr ⟨unlisted, .inr ⟨untold, found⟩⟩

theorem explanation?_eq_some_iff {body text : String} :
    explanation? body = some text ↔ Explained body text := by
  have kept : ∀ json, Json.read? body >>= Json.kept? = some json ↔
      Json.read? body = some json ∧ json.keepable Json.greatestDepth = true := by
    intro json
    simp only [Option.bind_eq_bind, Option.bind_eq_some_iff, Json.kept?,
      Option.ite_none_right_eq_some, Option.some.injEq]
    constructor
    · rintro ⟨_, read, keepable, rfl⟩
      exact ⟨read, keepable⟩
    · rintro ⟨read, keepable⟩
      exact ⟨_, read, keepable, rfl⟩
  unfold explanation?
  rw [Option.bind_eq_bind, Option.bind_eq_some_iff]
  constructor
  · rintro ⟨json, isKept, found⟩
    obtain ⟨read, keepable⟩ := (kept json).1 isKept
    cases json with
    | record fields => exact ⟨fields, read, keepable, explains_iff.1 found⟩
    | _ => cases found
  · rintro ⟨fields, read, keepable, explains⟩
    exact ⟨_, (kept _).2 ⟨read, keepable⟩, explains_iff.2 explains⟩

end Response

/-- The message that a failure comes with. -/
inductive Tells (status : Nat) (body : String) : String → Prop
  | explained {text : String} (explained : Explained body text) : Tells status body text
  | body {core : List Char} (unexplained : ∀ text, ¬Explained body text)
      (trims : Text.Trims body.toList core) (nonempty : core ≠ []) :
      Tells status body (String.ofList core)
  | usual {phrase : String} (unexplained : ∀ text, ¬Explained body text)
      (blank : Text.IsBlank body) (named : reason? status = some phrase) :
      Tells status body phrase
  | unknown (unexplained : ∀ text, ¬Explained body text) (blank : Text.IsBlank body)
      (unnamed : reason? status = none) : Tells status body "Unknown error"

theorem not_isBlank_of_reason {status : Nat} {phrase : String}
    (named : reason? status = some phrase) : ¬Text.IsBlank phrase := by
  rw [Text.isBlank_iff_all]
  unfold reason? at named
  split at named <;> cases named <;> decide +kernel

theorem Explained.unique {body first second : String} (saysFirst : Explained body first)
    (saysSecond : Explained body second) : first = second :=
  Option.some.inj ((Response.explanation?_eq_some_iff.2 saysFirst).symm.trans
    (Response.explanation?_eq_some_iff.2 saysSecond))

/-- Only a body that is believed can leave a failure without an explanation. -/
theorem Tells.isBlank_iff {status : Nat} {body message : String}
    (tells : Tells status body message) :
    Text.IsBlank message ↔ ∃ text, Explained body text ∧ Text.IsBlank text := by
  cases tells with
  | explained explained =>
      constructor
      · exact fun blank => ⟨message, explained, blank⟩
      · rintro ⟨text, other, blank⟩
        rwa [explained.unique other]
  | body unexplained trims nonempty =>
      refine iff_of_false (fun blank => ?_) fun ⟨text, told, _⟩ => unexplained text told
      obtain ⟨_, _, _, _, _, first, _⟩ := trims
      obtain ⟨c, core, rfl⟩ := List.exists_cons_of_ne_nil nonempty
      have isBlank := blank c (by simp)
      rw [first c rfl] at isBlank
      cases isBlank
  | usual unexplained _ named =>
      exact iff_of_false (not_isBlank_of_reason named)
        fun ⟨text, told, _⟩ => unexplained text told
  | unknown unexplained =>
      refine iff_of_false ?_ fun ⟨text, told, _⟩ => unexplained text told
      rw [Text.isBlank_iff_all]
      decide

namespace Response

theorem tells_failureMessage (status : Nat) (body : String) :
    Tells status body (failureMessage status body) := by
  unfold failureMessage
  cases found : explanation? body with
  | some text => exact .explained (explanation?_eq_some_iff.1 found)
  | none =>
      have unexplained : ∀ text, ¬Explained body text := fun text explained => by
        rw [explanation?_eq_some_iff.2 explained] at found
        cases found
      by_cases empty : Text.trim body.toList = []
      · have blank : Text.IsBlank body := Text.trim_eq_nil_iff.1 empty
        simp only [Text.trimmed, empty]
        cases named : reason? status with
        | some phrase => exact .usual unexplained blank named
        | none => exact .unknown unexplained blank named
      · have nonempty : (Text.trimmed body).isEmpty = false := by
          simpa [Text.trimmed, String.isEmpty_iff] using empty
        simp only [nonempty]
        exact .body unexplained (Text.trim_eq_iff.1 rfl) empty

def text (response : Response) : String := withoutOrderMark response.received

theorem text_eq_body {response : Response} (has : hasNoBody response.status = false)
    (unmarked : ∀ c ∈ response.body.toList.head?, c.toNat ≠ 0xFEFF) :
    response.text = response.body := by
  rw [text, received, has, if_neg Bool.false_ne_true]
  unfold withoutOrderMark
  split
  · rename_i c rest spelled
    rw [if_neg (unmarked c (by rw [spelled]; rfl))]
  · rfl

theorem decode_of_failed {response : Response} (failed : isSuccess response.status = false)
    (read : Json → Option α) : response.decode read =
      .error (.backend response.status (failureMessage response.status response.text)) := by
  rw [decode, failed, if_neg Bool.false_ne_true]
  rfl

theorem ofResponse_of_failed {response : Response} (failed : isSuccess response.status = false)
    (call : BackendCall) : Payload.ofResponse call response =
      .error (.backend response.status (failureMessage response.status response.text)) := by
  cases call <;> rw [Payload.ofResponse, decode_of_failed failed] <;> rfl

/-- A response that is no success is an error of the backend with just its status, whatever was
asked for.  The message is what the body says, if it is a record in one of the known forms, or else
the body between its blanks, or else the usual phrase for the status.  So it is blank only if the
body is in one of the known forms and says something blank. -/
theorem failure_explained {response : Response} (failed : isSuccess response.status = false) :
    (hasNoBody response.status = false →
      (∀ c ∈ response.body.toList.head?, c.toNat ≠ 0xFEFF) → response.text = response.body) ∧
    ∃ message,
      (∀ (α : Type) (read : Json → Option α),
        response.decode read = .error (.backend response.status message)) ∧
      (∀ call, Payload.ofResponse call response = .error (.backend response.status message)) ∧
      Tells response.status response.text message ∧
      (Text.IsBlank message ↔ ∃ text, Explained response.text text ∧ Text.IsBlank text) := by
  have tells := tells_failureMessage response.status response.text
  exact ⟨text_eq_body, _, fun _ => decode_of_failed failed, ofResponse_of_failed failed, tells,
    tells.isBlank_iff⟩

/-- What looks like notices and a message is none. -/
def misleading : Response :=
  ⟨404, "\x7b\"error\":\"no list\",\"message\":7,\"detail\":\"Not Found\"\x7d"⟩

theorem failure_explained_of_misleading :
    isSuccess misleading.status = false ∧
      Payload.ofResponse (.suggestions .staff "x") misleading =
        .error (.backend 404 "Not Found") ∧ ¬Text.IsBlank "Not Found" := by
  have failed : isSuccess misleading.status = false := rfl
  have told : Explained misleading.text "Not Found" :=
    explanation?_eq_some_iff.1 (by decide +kernel)
  obtain ⟨_, message, _, handled, tells, blank⟩ := failure_explained failed
  have isDetail : message = "Not Found" := by
    cases tells with
    | explained other => exact other.unique told
    | body unexplained => exact absurd told (unexplained _)
    | usual unexplained => exact absurd told (unexplained _)
    | unknown unexplained => exact absurd told (unexplained _)
  rw [isDetail] at handled
  refine ⟨failed, handled _, ?_⟩
  rw [Text.isBlank_iff_all]
  decide

def noNotices : Response := ⟨500, "\x7b\"error\":[]\x7d"⟩

def blankMessage : Response := ⟨500, "\x7b\"message\":\" \"\x7d"⟩

/-- A list of no notices is believed, and so is a blank message. -/
theorem unexplained_of_blank :
    let call := BackendCall.suggestions .staff "x"
    isSuccess noNotices.status = false ∧ isSuccess blankMessage.status = false ∧
      Payload.ofResponse call noNotices = .error (.backend 500 "") ∧
      Payload.ofResponse call blankMessage = .error (.backend 500 " ") ∧
      Text.IsBlank "" ∧ Text.IsBlank " " := by
  intro call
  have nothing : failureMessage noNotices.status noNotices.text = "" := by decide +kernel
  have blank : failureMessage blankMessage.status blankMessage.text = " " := by decide +kernel
  refine ⟨rfl, rfl, ?_, ?_, ?_, ?_⟩
  · rw [ofResponse_of_failed rfl, nothing]
    rfl
  · rw [ofResponse_of_failed rfl, blank]
    rfl
  all_goals
    rw [Text.isBlank_iff_all]
    decide

end Response

end Http

end MediaFilter
