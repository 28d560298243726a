import PipelineWatch.Frame
import PipelineWatch.Proofs.Json.Reading
import PipelineWatch.Proofs.Record.Fields

/-!
The frames that are messages. A frame is one exactly when it spells an object whose `type`
is a known one and whose body tells of the fields of that type by their rules: which may be
missing, which may be null, and what else each may hold.
-/
namespace PipelineWatch

open Json (Members last? lookup normalMembers SpellsDocument)
open Record (Tells TellsText TellsTextOrNull TellsOptional TellsObject TellsCount)

/-! ### The rules of the bodies -/

/-- The fields of an event in their order. -/
def Event.fieldNames : List String :=
  ["event_id", "event_type", "version", "timestamp", "producer", "idempotency_key", "payload"]

/-- What is told of the fields of an event. Null is no text. -/
structure Event.Told (get : String → Option Json) (e : Event) : Prop where
  id : get "event_id" = some (.text e.id)
  kind : ∃ marker, get "event_type" = some (.text marker) ∧ e.kind = .ofMarker marker
  version : TellsText "1.0" (get "version") e.version
  timestamp : get "timestamp" = some (.text e.timestamp)
  producer : get "producer" = some (.text e.producer)
  key : TellsText "" (get "idempotency_key") e.key
  payload : TellsObject (get "payload") e.payload

/-- The fields of a row in their order. -/
def History.fieldNames : List String :=
  ["event_id", "event_type", "version", "timestamp", "created_at", "producer",
   "idempotency_key", "payload"]

/-- What is told of the fields of a row. Only the first two have to be there. -/
structure History.Told (get : String → Option Json) (h : History) : Prop where
  id : get "event_id" = some (.text h.id)
  kind : ∃ marker, get "event_type" = some (.text marker) ∧ h.kind = .ofMarker marker
  version : TellsOptional (get "version") h.version
  timestamp : TellsOptional (get "timestamp") h.timestamp
  createdAt : TellsOptional (get "created_at") h.createdAt
  producer : TellsTextOrNull (get "producer") h.producer
  key : TellsOptional (get "idempotency_key") h.key
  payload : TellsObject (get "payload") h.payload

/-- The fields of a request in their order. -/
def Approval.fieldNames : List String :=
  ["approval_id", "plan_id", "branch_name", "files_count", "security_reasoning", "pr_context",
   "decision", "reviewer"]

/-- What is told of the fields of a request. Only the id has to be there. -/
structure Approval.Told (get : String → Option Json) (a : Approval) : Prop where
  id : get "approval_id" = some (.text a.id)
  planId : TellsTextOrNull (get "plan_id") a.planId
  branch : TellsTextOrNull (get "branch_name") a.branch
  files : TellsCount (get "files_count") a.files
  reasoning : TellsTextOrNull (get "security_reasoning") a.reasoning
  context : TellsObject (get "pr_context") a.context
  decision : TellsOptional (get "decision") a.decision
  reviewer : TellsOptional (get "reviewer") a.reviewer

/-- The message that the members of an object tell. Other members than the type and the
body are passed over. -/
inductive Message.Told (members : Members) : Message → Prop where
  | event {body : Json} {get : String → Option Json} {e : Event} :
      last? "type" members = some (.text "event") → last? "event" members = some body →
      Tells Event.fieldNames body get → e.Told get → Told members (.event e)
  | history {body : Json} {get : String → Option Json} {h : History} :
      last? "type" members = some (.text "history") → last? "event" members = some body →
      Tells History.fieldNames body get → h.Told get → Told members (.history h)
  | approval {body : Json} {get : String → Option Json} {a : Approval} :
      last? "type" members = some (.text "approval") → last? "approval" members = some body →
      Tells Approval.fieldNames body get → a.Told get → Told members (.approval a)
  | approvalDecided {body : Json} {get : String → Option Json} {a : Approval} :
      last? "type" members = some (.text "approval_decided") →
      last? "approval" members = some body →
      Tells Approval.fieldNames body get → a.Told get → Told members (.approvalDecided a)

/-! ### Bodies -/

open Record (carries_required carries_text carries_textOrNull carries_optional carries_object
  carries_count)

theorem Event.decode_eq_ok_iff {setting : Record.Setting} {body : Json} {e : Event} :
    format.decode setting body.normalize = .ok e ↔
      ∃ get, Tells fieldNames body get ∧ e.Told get := by
  rw [Record.Format.decode_eq_ok_iff (by decide)]
  constructor
  · rintro ⟨get, ⟨id, marker, version, timestamp, producer, key, payload, ⟨⟩⟩, ht,
      ⟨hid, hkind, hversion, htimestamp, hproducer, hkey, hpayload, -⟩, rfl⟩
    exact ⟨get, ht, carries_required.mp hid, ⟨marker, carries_required.mp hkind, rfl⟩,
      carries_text.mp hversion, carries_required.mp htimestamp, carries_required.mp hproducer,
      carries_text.mp hkey, carries_object.mp hpayload⟩
  · rintro ⟨get, ht, hid, ⟨marker, hmarker, hkind⟩, hversion, htimestamp, hproducer, hkey,
      hpayload⟩
    obtain ⟨id, kind, version, timestamp, producer, key, payload⟩ := e
    subst hkind
    exact ⟨get, (id, marker, version, timestamp, producer, key, payload, ()), ht,
      ⟨carries_required.mpr hid, carries_required.mpr hmarker, carries_text.mpr hversion,
        carries_required.mpr htimestamp, carries_required.mpr hproducer, carries_text.mpr hkey,
        carries_object.mpr hpayload, trivial⟩, rfl⟩

theorem History.decode_eq_ok_iff {setting : Record.Setting} {body : Json} {h : History} :
    format.decode setting body.normalize = .ok h ↔
      ∃ get, Tells fieldNames body get ∧ h.Told get := by
  rw [Record.Format.decode_eq_ok_iff (by decide)]
  constructor
  · rintro ⟨get, ⟨id, marker, version, timestamp, createdAt, producer, key, payload, ⟨⟩⟩, ht,
      ⟨hid, hkind, hversion, htimestamp, hcreated, hproducer, hkey, hpayload, -⟩, rfl⟩
    exact ⟨get, ht, carries_required.mp hid, ⟨marker, carries_required.mp hkind, rfl⟩,
      carries_optional.mp hversion, carries_optional.mp htimestamp, carries_optional.mp hcreated,
      carries_textOrNull.mp hproducer, carries_optional.mp hkey, carries_object.mp hpayload⟩
  · rintro ⟨get, ht, hid, ⟨marker, hmarker, hkind⟩, hversion, htimestamp, hcreated, hproducer,
      hkey, hpayload⟩
    obtain ⟨id, kind, version, timestamp, createdAt, producer, key, payload⟩ := h
    subst hkind
    exact ⟨get, (id, marker, version, timestamp, createdAt, producer, key, payload, ()), ht,
      ⟨carries_required.mpr hid, carries_required.mpr hmarker, carries_optional.mpr hversion,
        carries_optional.mpr htimestamp, carries_optional.mpr hcreated,
        carries_textOrNull.mpr hproducer, carries_optional.mpr hkey,
        carries_object.mpr hpayload, trivial⟩, rfl⟩

theorem Approval.decode_eq_ok_iff {setting : Record.Setting} {body : Json} {a : Approval} :
    format.decode setting body.normalize = .ok a ↔
      ∃ get, Tells fieldNames body get ∧ a.Told get := by
  rw [Record.Format.decode_eq_ok_iff (by decide)]
  constructor
  · rintro ⟨get, ⟨id, planId, branch, files, reasoning, context, decision, reviewer, ⟨⟩⟩, ht,
      ⟨hid, hplan, hbranch, hfiles, hreasoning, hcontext, hdecision, hreviewer, -⟩, rfl⟩
    exact ⟨get, ht, carries_required.mp hid, carries_textOrNull.mp hplan,
      carries_textOrNull.mp hbranch, carries_count.mp hfiles, carries_textOrNull.mp hreasoning,
      carries_object.mp hcontext, carries_optional.mp hdecision, carries_optional.mp hreviewer⟩
  · rintro ⟨get, ht, hid, hplan, hbranch, hfiles, hreasoning, hcontext, hdecision, hreviewer⟩
    exact ⟨get, (a.id, a.planId, a.branch, a.files, a.reasoning, a.context, a.decision,
      a.reviewer, ()), ht,
      ⟨carries_required.mpr hid, carries_textOrNull.mpr hplan, carries_textOrNull.mpr hbranch,
        carries_count.mpr hfiles, carries_textOrNull.mpr hreasoning, carries_object.mpr hcontext,
        carries_optional.mpr hdecision, carries_optional.mpr hreviewer, trivial⟩, rfl⟩

namespace Message

/-! ### The type and the body -/

theorem envelopeOf_others {tag : Tag} {others members : Members}
    (h : ∀ m ∈ members, m.1 ≠ "type") :
    envelopeOf (some tag) others members = .ok (.members tag (others.reverse ++ members)) := by
  induction members generalizing others with
  | nil => simp [envelopeOf]
  | cons m ms ih =>
    obtain ⟨hm, hms⟩ := List.forall_mem_cons.mp h
    simp [envelopeOf, hm, ih hms]

theorem Tag.ofName?_eq_some_iff {s : String} {tag : Tag} :
    Tag.ofName? s = some tag ↔ s = tag.name := by
  constructor
  · intro h
    have hname := List.find?_some h
    exact (eq_of_beq hname).symm
  · rintro rfl
    cases tag <;> decide

theorem tagOf_eq_ok_iff {v : Json} {tag : Tag} : tagOf v = .ok tag ↔ v = .text tag.name := by
  cases v with
  | text s =>
    rw [tagOf, tagOfName, Json.text.injEq, ← Tag.ofName?_eq_some_iff]
    cases Tag.ofName? s <;> simp
  | _ => simp [tagOf]

/-- The envelope of an object whose keys are all different. -/
theorem envelopeOf_eq_ok_iff {members others : Members} (hs : Json.Sorted members)
    {envelope : Envelope} :
    envelopeOf none others members = .ok envelope ↔
      ∃ tag, lookup "type" members = some (.text tag.name) ∧
        envelope = .members tag
          (others.reverse ++ members.filter fun m => m.1 != "type") := by
  induction members generalizing others with
  | nil => simp [envelopeOf, lookup]
  | cons m ms ih =>
    obtain ⟨key, v⟩ := m
    obtain ⟨hm, hms⟩ := List.pairwise_cons.mp hs
    by_cases hk : key = "type"
    · subst hk
      -- the keys are sorted, so the type is not given twice
      have hne : ∀ n ∈ ms, n.1 ≠ "type" := fun n hn he =>
        String.lt_irrefl "type" (he ▸ hm n hn)
      have hfilter : ms.filter (fun m => m.1 != "type") = ms :=
        List.filter_eq_self.mpr fun n hn => by simpa using hne n hn
      simp only [envelopeOf, if_true, Option.isSome_none, Bool.false_eq_true, if_false, lookup,
        Option.some.injEq, ← tagOf_eq_ok_iff]
      rw [List.filter_cons_of_neg (by simp), hfilter]
      cases ht : tagOf v with
      | error e => simp
      | ok tag => simp [envelopeOf_others hne, eq_comm]
    · simp [envelopeOf, lookup, hk, ih hms]

theorem ofMembers_found {tag : Tag} {m : Message} {members : Members}
    (h : ∀ n ∈ members, n.1 ≠ tag.bodyKey) : ofMembers tag (some m) members = .ok m := by
  induction members with
  | nil => rfl
  | cons n ms ih =>
    obtain ⟨hn, hms⟩ := List.forall_mem_cons.mp h
    simp [ofMembers, hn, ih hms]

theorem ofMembers_eq_ok_iff {tag : Tag} {members : Members} (hs : Json.Sorted members)
    {m : Message} :
    ofMembers tag none members = .ok m ↔
      ∃ body, lookup tag.bodyKey members = some body ∧ ofBody body tag = .ok m := by
  induction members with
  | nil => simp [ofMembers, lookup]
  | cons n ms ih =>
    obtain ⟨key, v⟩ := n
    obtain ⟨hn, hms⟩ := List.pairwise_cons.mp hs
    by_cases hk : key = tag.bodyKey
    · have hne : ∀ n ∈ ms, n.1 ≠ tag.bodyKey := fun n hn' he =>
        String.lt_irrefl key (by simpa [he, hk] using hn n hn')
      cases hb : ofBody v tag with
      | error e => simp [ofMembers, lookup, hk, hb]
      | ok m' => simp [ofMembers, lookup, hk, hb, ofMembers_found hne]
    · simp [ofMembers, lookup, hk, ih hms]

theorem lookup_filter {key : String} (hk : key ≠ "type") (members : Members) :
    lookup key (members.filter fun m => m.1 != "type") = lookup key members := by
  induction members with
  | nil => rfl
  | cons m ms ih =>
    obtain ⟨k, v⟩ := m
    by_cases ht : k = "type"
    · have hne : "type" ≠ key := hk.symm
      simp [ht, lookup, hne, ih]
    · simp [ht, lookup, ih]

/-- A message is decoded from its type and its body alone. -/
theorem decode_object_eq_ok_iff {members : Members} (hs : Json.Sorted members) {m : Message} :
    decode (.object members) = .ok m ↔
      ∃ tag body, lookup "type" members = some (.text tag.name) ∧
        lookup tag.bodyKey members = some body ∧ ofBody body tag = .ok m := by
  have hkey : ∀ tag : Tag, tag.bodyKey ≠ "type" := by
    intro tag
    cases tag <;> decide
  have hbody : ∀ tag, (Envelope.members tag
      (members.filter fun m => m.1 != "type")).message = .ok m ↔
      ∃ body, lookup tag.bodyKey members = some body ∧ ofBody body tag = .ok m := by
    intro tag
    rw [Envelope.message, ofMembers_eq_ok_iff (List.Pairwise.filter _ hs),
      lookup_filter (hkey tag)]
  rw [decode]
  constructor
  · intro h
    cases he : envelopeOf none [] members with
    | error e => simp [he, bind, Except.bind] at h
    | ok envelope =>
      obtain ⟨tag, htag, rfl⟩ := (envelopeOf_eq_ok_iff hs).mp he
      rw [he] at h
      obtain ⟨body, hb, hm⟩ := (hbody tag).mp h
      exact ⟨tag, body, htag, hb, hm⟩
  · rintro ⟨tag, body, htag, hb, hm⟩
    rw [(envelopeOf_eq_ok_iff hs).mpr ⟨tag, htag, rfl⟩]
    exact (hbody tag).mpr ⟨body, hb, hm⟩

/-- The message of a type, of what the body tells. -/
theorem ofBody_normalize {tag : Tag} {body : Json} {m : Message} :
    ofBody body.normalize tag = .ok m ↔
      match m with
      | .event e => tag = .event ∧ ∃ get, Tells Event.fieldNames body get ∧ e.Told get
      | .history h => tag = .history ∧ ∃ get, Tells History.fieldNames body get ∧ h.Told get
      | .approval a => tag = .approval ∧ ∃ get, Tells Approval.fieldNames body get ∧ a.Told get
      | .approvalDecided a =>
        tag = .approvalDecided ∧ ∃ get, Tells Approval.fieldNames body get ∧ a.Told get := by
  have map : ∀ {α : Type} {x : Except Json.Mismatch α} {f : α → Message},
      x.map f = .ok m ↔ ∃ a, x = .ok a ∧ f a = m := by
    intro α x f
    cases x <;> simp [Except.map]
  cases tag <;> cases m <;>
    simp [ofBody, map, Event.decode_eq_ok_iff, History.decode_eq_ok_iff,
      Approval.decode_eq_ok_iff]

theorem decode_normalMembers {members : Members} {m : Message} :
    decode (.object (normalMembers members)) = .ok m ↔ Told members m := by
  have hscalar : ∀ {v : Json} {s : String}, v.normalize = .text s → v = .text s := by
    intro v s hv
    cases v <;> simp_all [Json.normalize]
  rw [decode_object_eq_ok_iff (Json.sorted_normalMembers members)]
  simp only [Json.lookup_normalMembers]
  constructor
  · rintro ⟨tag, _, htag, hbody, hm⟩
    obtain ⟨v, hv, hs⟩ := Option.map_eq_some_iff.mp htag
    obtain ⟨body, hb, rfl⟩ := Option.map_eq_some_iff.mp hbody
    rw [hscalar hs] at hv
    have hm := ofBody_normalize.mp hm
    cases m with
    | event e =>
      obtain ⟨rfl, get, ht, htold⟩ := hm
      exact .event hv hb ht htold
    | history h =>
      obtain ⟨rfl, get, ht, htold⟩ := hm
      exact .history hv hb ht htold
    | approval a =>
      obtain ⟨rfl, get, ht, htold⟩ := hm
      exact .approval hv hb ht htold
    | approvalDecided a =>
      obtain ⟨rfl, get, ht, htold⟩ := hm
      exact .approvalDecided hv hb ht htold
  · intro h
    have told : ∀ (tag : Tag) {body : Json}, last? "type" members = some (.text tag.name) →
        last? tag.bodyKey members = some body → ofBody body.normalize tag = .ok m →
        ∃ tag body, (last? "type" members).map Json.normalize = some (.text tag.name) ∧
          (last? tag.bodyKey members).map Json.normalize = some body ∧ ofBody body tag = .ok m :=
      fun tag body htype hbody hm =>
        ⟨tag, body.normalize, by rw [htype]; rfl, by rw [hbody]; rfl, hm⟩
    cases h with
    | event htype hbody ht htold =>
      exact told .event htype hbody (ofBody_normalize.mpr ⟨rfl, _, ht, htold⟩)
    | history htype hbody ht htold =>
      exact told .history htype hbody (ofBody_normalize.mpr ⟨rfl, _, ht, htold⟩)
    | approval htype hbody ht htold =>
      exact told .approval htype hbody (ofBody_normalize.mpr ⟨rfl, _, ht, htold⟩)
    | approvalDecided htype hbody ht htold =>
      exact told .approvalDecided htype hbody (ofBody_normalize.mpr ⟨rfl, _, ht, htold⟩)

end Message

namespace Frame

/-- The type is looked at before all else; a message has one of the known ones. -/
theorem ofJson_eq_message_iff {v : Json} {m : Message} :
    ofJson v = .ok (.message m) ↔
      (∃ tag : Message.Tag, type? v = some tag.name) ∧ Message.decode v = .ok m := by
  rw [ofJson]
  cases type? v with
  | none => simp
  | some s =>
    simp only
    cases hs : Message.Tag.ofName? s with
    | none =>
      refine iff_of_false (by simp) ?_
      rintro ⟨⟨tag, htag⟩, -⟩
      rw [Message.Tag.ofName?_eq_some_iff.mpr (Option.some.inj htag)] at hs
      cases hs
    | some tag =>
      have hname := Message.Tag.ofName?_eq_some_iff.mp hs
      rw [and_iff_right ⟨tag, congrArg some hname⟩]
      cases Message.decode v <;> simp

theorem ofJson_normalize {v : Json} {m : Message} :
    ofJson v.normalize = .ok (.message m) ↔
      ∃ members, v = .object members ∧ m.Told members := by
  rw [ofJson_eq_message_iff]
  cases v with
  | object members =>
    have htype : ∀ tag : Message.Tag,
        lookup "type" (normalMembers members) = some (.text tag.name) →
        type? (.object (normalMembers members)) = some tag.name := by
      intro tag h
      rw [type?, h]
    simp only [Json.normalize_object, Json.object.injEq, exists_eq_left',
      Message.decode_normalMembers]
    refine and_iff_right_of_imp fun h => ?_
    obtain ⟨tag, -, htag, -⟩ :=
      (Message.decode_object_eq_ok_iff (Json.sorted_normalMembers members)).mp
        (Message.decode_normalMembers.mpr h)
    exact ⟨tag, htype tag htag⟩
  | _ => simp [type?, Json.normalize]

/-- A frame that is not too long is a message when its document tells one. -/
theorem decode_eq_message_iff {limit : Nat} {bytes : List UInt8} {m : Message} :
    decode limit bytes = .ok (.message m) ↔
      bytes.length ≤ limit ∧
        ∃ members, Json.readTree bytes = .ok (.object members) ∧ m.Told members := by
  rw [decode, Json.read]
  split
  · next hlt => exact iff_of_false (fun h => by cases h) fun h => Nat.not_le.mpr hlt h.1
  · next hle =>
    rw [and_iff_right (Nat.not_lt.mp hle)]
    cases hr : Json.readTree bytes with
    | error stop => simp [Except.map]
    | ok v => simp [Except.map, ofJson_normalize]

/-- A frame is a message exactly when it is no longer than the limit and spells an object
that tells the message. -/
theorem decode_message_grammar (limit : Nat) (bytes : List UInt8) (m : Message) :
    decode limit bytes = .ok (.message m) ↔
      bytes.length ≤ limit ∧
        ∃ members, SpellsDocument (.object members) bytes ∧ m.Told members := by
  simp only [decode_eq_message_iff, Json.readTree_eq_ok_iff]

end Frame

end PipelineWatch
