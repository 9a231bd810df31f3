import FaultPlane.Config.Validity
import FaultPlane.Contract.Command
import FaultPlane.Contract.ServiceInfo
import FaultPlane.Contract.ServiceStatus
import FaultPlane.Identity
import FaultPlane.Injection.Record
import FaultPlane.Injection.Request
import FaultPlane.Injection.Response
import FaultPlane.Proofs.Json.Objects
import FaultPlane.Proofs.Time.Timestamps

/-!
# Documents that are written and read

Everything that crosses the wire or stands in a configuration file is a document of one of sixteen
forms. What is written for a value is read as that value, with every field, for every text and every
whole number in it; what a document is read as is written and read again without a change
(`round_trip`). Doubles are the exception: the two rounded steps in which they are read do not
always lead back, so it is a condition on a value that each of its doubles is carried.
-/

namespace FaultPlane

open FaultPlane.Json

/-! ### What services say -/

namespace Contract

theorem Descriptor.readsBack {d : Descriptor}
    (reals : ∀ x ∈ d.defaultProbability, Codec.real.Carries x) : Descriptor.codec.ReadsBack d :=
  readsBack_record (by decide)
    ⟨Field.restores_withDefault (readsBack_text _),
      Field.restores_withDefault (readsBack_text _),
      Field.restores_withDefault (readsBack_text _),
      Field.restores_withDefault (readsBack_text _),
      Field.restores_optional fun n _ => readsBack_int64 n,
      Field.restores_optional fun n _ => readsBack_int32 n,
      Field.restores_optional fun x hx => readsBack_real (reals x hx),
      trivial⟩ rfl

theorem ServiceInfo.readsBack {i : ServiceInfo}
    (reals : ∀ d ∈ i.faults, ∀ x ∈ d.defaultProbability, Codec.real.Carries x) :
    ServiceInfo.codec.ReadsBack i :=
  readsBack_record (by decide)
    ⟨Field.restores_withDefault (readsBack_text _),
      Field.restores_withDefault (readsBack_text _),
      Field.restores_withDefault (readsBack_text _),
      Field.restores_withDefault (readsBack_text _),
      Field.restores_withDefault
        (readsBack_listOrNull fun d hd => Descriptor.readsBack (reals d hd)),
      trivial⟩ rfl

theorem Toggle.readsBack {t : Toggle} (reals : ∀ x ∈ t.probability, Codec.real.Carries x) :
    Toggle.codec.ReadsBack t :=
  readsBack_record (by decide)
    ⟨Field.restores_withDefault (readsBack_text _),
      Field.restores_withDefault (readsBack_bool _),
      Field.restores_optional fun n _ => readsBack_int64 n,
      Field.restores_optional fun n _ => readsBack_int32 n,
      Field.restores_optional fun x hx => readsBack_real (reals x hx),
      trivial⟩ rfl

theorem ServiceStatus.readsBack {s : ServiceStatus}
    (reals : ∀ t ∈ s.faults, ∀ x ∈ t.probability, Codec.real.Carries x) :
    ServiceStatus.codec.ReadsBack s :=
  readsBack_record (by decide)
    ⟨Field.restores_withDefault (readsBack_text _),
      Field.restores_withDefault (readsBack_text _),
      Field.restores_withDefault (readsBack_text _),
      Field.restores_withDefault (readsBack_text _),
      Field.restores_withDefault (readsBack_int64 _),
      Field.restores_withDefault (readsBack_bool _),
      Field.restores_withDefault (readsBack_listOrNull fun t ht => Toggle.readsBack (reals t ht)),
      trivial⟩ rfl

theorem Command.readsBack {c : Command} (reals : ∀ x ∈ c.probability, Codec.real.Carries x) :
    Command.codec.ReadsBack c :=
  readsBack_record (by decide)
    ⟨Field.restores_required (readsBack_text _),
      Field.restores_withDefault (readsBack_bool _),
      Field.restores_optional fun n _ => readsBack_int64 n,
      Field.restores_optional fun n _ => readsBack_int32 n,
      Field.restores_optional fun x hx => readsBack_real (reals x hx),
      trivial⟩ rfl

theorem Reply.readsBack (r : Reply) : Reply.codec.ReadsBack r :=
  readsBack_record (by decide)
    ⟨Field.restores_withDefault (readsBack_bool _),
      Field.restores_withDefault (readsBack_text _),
      Field.restores_withDefault (readsBack_text _),
      Field.restores_withDefault (readsBack_bool _),
      trivial⟩ rfl

end Contract

/-! ### Requests, responses and records -/

namespace Injection

theorem NetworkRequest.readsBack (r : NetworkRequest) : NetworkRequest.codec.ReadsBack r :=
  readsBack_record (by decide)
    ⟨Field.restores_withDefault (readsBack_text _),
      Field.restores_nullable fun s _ => readsBack_text s,
      Field.restores_nullable fun n _ => readsBack_int64 n,
      Field.restores_nullable fun n _ => readsBack_int64 n,
      Field.restores_nullable fun s _ => readsBack_text s,
      Field.restores_nullable fun s _ => readsBack_text s,
      Field.restores_nullable fun b _ => readsBack_bool b,
      trivial⟩ rfl

theorem ExceptionRequest.readsBack {r : ExceptionRequest}
    (reals : ∀ x ∈ r.probability, Codec.real.Carries x) : ExceptionRequest.codec.ReadsBack r :=
  readsBack_record (by decide)
    ⟨Field.restores_withDefault (readsBack_text _),
      Field.restores_nullable fun s _ => readsBack_text s,
      Field.restores_nullable fun s _ => readsBack_text s,
      Field.restores_nullable fun s _ => readsBack_text s,
      Field.restores_nullable fun s _ => readsBack_text s,
      Field.restores_nullable fun n _ => readsBack_int64 n,
      Field.restores_nullable fun s _ => readsBack_text s,
      Field.restores_nullable fun n _ => readsBack_int32 n,
      Field.restores_nullable fun n _ => readsBack_int64 n,
      Field.restores_nullable fun x hx => readsBack_real (reals x hx),
      trivial⟩ rfl

theorem LatencyRequest.readsBack {r : LatencyRequest}
    (reals : ∀ x ∈ r.probability, Codec.real.Carries x) : LatencyRequest.codec.ReadsBack r :=
  readsBack_record (by decide)
    ⟨Field.restores_withDefault (readsBack_text _),
      Field.restores_nullable fun s _ => readsBack_text s,
      Field.restores_nullable fun s _ => readsBack_text s,
      Field.restores_nullable fun s _ => readsBack_text s,
      Field.restores_nullable fun s _ => readsBack_text s,
      Field.restores_nullable fun n _ => readsBack_int64 n,
      Field.restores_nullable fun n _ => readsBack_int64 n,
      Field.restores_nullable fun x hx => readsBack_real (reals x hx),
      trivial⟩ rfl

theorem ActionResponse.readsBack (r : ActionResponse) : ActionResponse.codec.ReadsBack r :=
  readsBack_record (by decide)
    ⟨Field.restores_required (readsBack_bool _),
      Field.restores_required (readsBack_text _),
      Field.restores_optionalKey fun s _ => readsBack_text s,
      Field.restores_optionalKey fun s _ => readsBack_text s,
      trivial⟩ rfl

theorem StopSummary.readsBack (s : StopSummary) : StopSummary.codec.ReadsBack s :=
  readsBack_record (by decide)
    ⟨Field.restores_required (readsBack_unsigned64 _ _),
      Field.restores_required (readsBack_unsigned64 _ _),
      Field.restores_required (readsBack_unsigned64 _ _),
      Field.restores_required (readsBack_unsigned64 _ _),
      trivial⟩ rfl

theorem StopAllResponse.readsBack (r : StopAllResponse) : StopAllResponse.codec.ReadsBack r :=
  readsBack_record (by decide)
    ⟨Field.restores_required (readsBack_bool _),
      Field.restores_required (readsBack_text _),
      Field.restores_required (StopSummary.readsBack _),
      Field.restores_required (StopSummary.readsBack _),
      trivial⟩ rfl

theorem FaultKind.readsBack (k : FaultKind) : FaultKind.codec.ReadsBack k :=
  readsBack_choice (by cases k <;> rfl)

theorem RecordStatus.readsBack (s : RecordStatus) : RecordStatus.codec.ReadsBack s :=
  readsBack_choice (by cases s <;> rfl)

/-- Both ends of the time of a fault are instants of the calendar. -/
def FaultRecord.IsTimed (r : FaultRecord) : Prop := r.startTime.IsProper ∧ r.endTime.IsProper

theorem FaultRecord.readsBack {r : FaultRecord} (timed : r.IsTimed) :
    FaultRecord.codec.ReadsBack r :=
  readsBack_record (by decide)
    ⟨Field.restores_required (readsBack_text _),
      Field.restores_required (readsBack_text _),
      Field.restores_required (FaultKind.readsBack _),
      Field.restores_required (readsBack_unsigned64 _ _),
      Field.restores_required (readsBack_unsigned64 _ _),
      Field.restores_required (readsBack_instant (Time.Instant.ofRfc3339_rfc3339 timed.1)),
      Field.restores_required (readsBack_instant (Time.Instant.ofRfc3339_rfc3339 timed.2)),
      Field.restores_required (RecordStatus.readsBack _),
      trivial⟩ rfl

theorem isProper_of_mayHold {key : String} {t : Time.Instant}
    (h : (Field.required key Codec.instant).MayHold t) : t.IsProper := by
  rcases h with ⟨cs, left, hread⟩ | habsent | hbeyond
  · obtain ⟨⟨s, cs⟩, _, h⟩ := bind_eq_ok.1 (show (readText _ cs >>= _) = _ from hread)
    dsimp only at h
    cases ht : Time.Instant.ofRfc3339 s with
    | error problem =>
      rw [ht] at h
      cases h
    | ok t' =>
      rw [ht] at h
      cases h
      exact Time.Instant.isProper_of_ofRfc3339 ht
  · cases habsent
  · cases hbeyond

/-- The times of a record that is read are instants of the calendar. -/
theorem FaultRecord.isTimed_of_read {r : FaultRecord} {cs left : List Char}
    (h : FaultRecord.codec.read cs = .ok (r, left)) : r.IsTimed := by
  obtain ⟨_, ⟨-, -, -, -, -, hstart, hend, -⟩, rfl⟩ := mayHold_record h
  exact ⟨isProper_of_mayHold hstart, isProper_of_mayHold hend⟩

end Injection

/-! ### Identities and settings -/

theorem Identity.readsBack (p : Identity) : Identity.codec.ReadsBack p := by
  have hbare : ∀ {p : Identity} {name : String}, Identity.codec.write p = .text name →
      Takes Identity.codec.read (textChars name) p → Identity.codec.ReadsBack p := by
    intro p name written takes
    have htext : (Identity.codec.write p).chars = textChars name := by rw [written, chars]
    exact ⟨by rw [htext]; exact opens_textChars name, by rw [htext]; exact takes⟩
  cases p with
  | controlPlane => exact hbare rfl (readVariant_text rfl)
  | embedded => exact hbare rfl (readVariant_text rfl)
  | agent service =>
    refine ⟨⟨rfl, by decide, by decide⟩, readVariant_object rfl fun rest ends => ?_⟩
    show (Codec.text.read ((Codec.text.write service).chars ++ rest) >>= _) = _
    rw [(readsBack_text service).takes rest ends]
    rfl

theorem ServerSettings.readsBack (s : ServerSettings) : ServerSettings.codec.ReadsBack s :=
  readsBack_record (by decide)
    ⟨Field.restores_withDefault (readsBack_text _),
      Field.restores_withDefault (readsBack_uint16 _),
      trivial⟩ rfl

theorem DiscoverySettings.readsBack (s : DiscoverySettings) : DiscoverySettings.codec.ReadsBack s :=
  readsBack_record (by decide)
    ⟨Field.restores_withDefault (readsBack_bool _),
      Field.restores_withDefault (readsBack_unsigned64 _ _),
      Field.restores_withDefault (readsBack_unsigned64 _ _),
      Field.restores_withDefault (readsBack_unsigned64 _ _),
      Field.restores_withDefault (readsBack_uint16 _),
      trivial⟩ rfl

theorem ServiceEntry.readsBack (s : ServiceEntry) : ServiceEntry.codec.ReadsBack s :=
  readsBack_record (by decide)
    ⟨Field.restores_required (readsBack_text _),
      Field.restores_required (readsBack_text _),
      Field.restores_optional fun a _ => readsBack_text a,
      trivial⟩ rfl

theorem ChaosSettings.readsBack (s : ChaosSettings) : ChaosSettings.codec.ReadsBack s :=
  readsBack_record (by decide)
    ⟨Field.restores_withDefault (readsBack_text _),
      Field.restores_withDefault (readsBack_uint16 _),
      Field.restores_withDefault (readsBack_unsigned64 _ _),
      Field.restores_withDefault (readsBack_unsigned64 _ _),
      Field.restores_withDefault (readsBack_text _),
      Field.restores_withDefault (readsBack_list fun name _ => readsBack_text name),
      trivial⟩ rfl

theorem CatalogSettings.readsBack (s : CatalogSettings) : CatalogSettings.codec.ReadsBack s :=
  readsBack_record (by decide)
    ⟨takes_option fun path _ => readsBack_path path,
      Field.restores_withDefault (readsBack_dictionary _),
      trivial⟩ rfl

theorem Config.readsBack (c : Config) : Config.codec.ReadsBack c :=
  readsBack_record (by decide)
    ⟨Field.restores_withDefault (ServerSettings.readsBack _),
      Field.restores_withDefault (DiscoverySettings.readsBack _),
      Field.restores_withDefault (readsBack_list fun s _ => ServiceEntry.readsBack s),
      Field.restores_withDefault (ChaosSettings.readsBack _),
      Field.restores_withDefault (CatalogSettings.readsBack _),
      trivial⟩ rfl

/-! ### Documents that are checked -/

theorem mapError_eq_ok {ε ε' α : Type} {f : ε → ε'} {x : Except ε α} {a : α} :
    x.mapError f = .ok a ↔ x = .ok a := by
  cases x with
  | error problem => constructor <;> intro h <;> cases h
  | ok a' => constructor <;> intro h <;> cases h <;> rfl

theorem Contract.ServiceInfo.ofDocument_eq_ok {doc : String} {i : Contract.ServiceInfo} :
    Contract.ServiceInfo.ofDocument doc = .ok i ↔
      Contract.ServiceInfo.codec.decode doc = .ok i ∧ Text.allBlank i.serviceId = false ∧
        i.faults.findIdx? (fun d => Text.allBlank d.id) = none := by
  unfold Contract.ServiceInfo.ofDocument Contract.decode
  constructor
  · intro h
    obtain ⟨i', hdecode, h⟩ := bind_eq_ok.1 h
    cases hid : Text.allBlank i'.serviceId with
    | true =>
      rw [hid] at h
      cases h
    | false =>
      rw [hid] at h
      cases hfaults : i'.faults.findIdx? (fun d => Text.allBlank d.id) with
      | some index =>
        rw [hfaults] at h
        cases h
      | none =>
        rw [hfaults] at h
        cases h
        exact ⟨mapError_eq_ok.1 hdecode, hid, hfaults⟩
  · rintro ⟨hdecode, hid, hfaults⟩
    rw [mapError_eq_ok.2 hdecode]
    show (if Text.allBlank i.serviceId = true then _ else _) = _
    rw [if_neg (by rw [hid]; decide), hfaults]
    rfl

theorem Config.ofDocument_eq_ok {doc : String} {c : Config} :
    Config.ofDocument doc = .ok c ↔ Config.codec.decode doc = .ok c ∧ c.check = .ok () := by
  unfold Config.ofDocument
  constructor
  · intro h
    obtain ⟨c', hdecode, h⟩ := bind_eq_ok.1 h
    obtain ⟨_, hcheck, h⟩ := bind_eq_ok.1 h
    cases h
    exact ⟨mapError_eq_ok.1 hdecode, hcheck⟩
  · rintro ⟨hdecode, hcheck⟩
    rw [mapError_eq_ok.2 hdecode]
    show (c.check >>= _) = _
    rw [hcheck]
    rfl

/-! ### The forms of documents -/

/-- The forms of the documents that services, callers and the plane exchange, and of the
configuration file. A service may publish its description instead of being asked for it. -/
inductive Form where
  | descriptor
  | info
  | publishedInfo
  | toggle
  | status
  | command
  | reply
  | networkRequest
  | exceptionRequest
  | latencyRequest
  | response
  | stopSummary
  | stopAllResponse
  | record
  | serviceEntry
  | identity
  | configuration
  deriving DecidableEq, Repr

namespace Form

open Contract Injection

/-- The values that documents of a form stand for. -/
def Value : Form → Type
  | .descriptor => Descriptor
  | .info | .publishedInfo => ServiceInfo
  | .toggle => Toggle
  | .status => ServiceStatus
  | .command => Command
  | .reply => Reply
  | .networkRequest => NetworkRequest
  | .exceptionRequest => ExceptionRequest
  | .latencyRequest => LatencyRequest
  | .response => ActionResponse
  | .stopSummary => StopSummary
  | .stopAllResponse => StopAllResponse
  | .record => FaultRecord
  | .serviceEntry => ServiceEntry
  | .identity => Identity
  | .configuration => Config

def codec : (form : Form) → Codec form.Value
  | .descriptor => Descriptor.codec
  | .info | .publishedInfo => ServiceInfo.codec
  | .toggle => Toggle.codec
  | .status => ServiceStatus.codec
  | .command => Command.codec
  | .reply => Reply.codec
  | .networkRequest => NetworkRequest.codec
  | .exceptionRequest => ExceptionRequest.codec
  | .latencyRequest => LatencyRequest.codec
  | .response => ActionResponse.codec
  | .stopSummary => StopSummary.codec
  | .stopAllResponse => StopAllResponse.codec
  | .record => FaultRecord.codec
  | .serviceEntry => ServiceEntry.codec
  | .identity => Identity.codec
  | .configuration => Config.codec

/-- The reader of the form accepts a document and makes a value of it. -/
def Reads : (form : Form) → String → form.Value → Prop
  | .publishedInfo, doc, i => ServiceInfo.ofDocument doc = .ok i
  | .configuration, doc, c => Config.ofDocument doc = .ok c
  | form, doc, v => form.codec.decode doc = .ok v

/-- What a value of the form has to fulfil. -/
def IsValid : (form : Form) → form.Value → Prop
  | .publishedInfo, i => Text.allBlank i.serviceId = false ∧
    i.faults.findIdx? (fun d => Text.allBlank d.id) = none
  | .record, r => r.IsTimed
  | .configuration, c => c.check = .ok ()
  | _, _ => True

/-- The doubles in a value. -/
def reals : (form : Form) → form.Value → List Float
  | .descriptor, d => d.defaultProbability.toList
  | .info, i | .publishedInfo, i => i.faults.flatMap fun d => d.defaultProbability.toList
  | .toggle, t => t.probability.toList
  | .status, s => s.faults.flatMap fun t => t.probability.toList
  | .command, c => c.probability.toList
  | .exceptionRequest, r => r.probability.toList
  | .latencyRequest, r => r.probability.toList
  | _, _ => []

/-- A reader accepts what its codec reads if the value fulfils what it has to. -/
theorem reads_iff {form : Form} {doc : String} {v : form.Value} :
    form.Reads doc v ↔ form.codec.decode doc = .ok v ∧ form.IsValid v := by
  cases form with
  | publishedInfo => exact ServiceInfo.ofDocument_eq_ok
  | configuration => exact Config.ofDocument_eq_ok
  | record =>
    refine ⟨fun h => ⟨h, ?_⟩, fun h => h.1⟩
    obtain ⟨left, hread, -⟩ := Codec.read_of_decode h
    exact FaultRecord.isTimed_of_read hread
  | _ => exact (and_iff_left trivial).symm

/-- Every valid value is carried if its doubles are. -/
theorem readsBack {form : Form} {v : form.Value} (valid : form.IsValid v)
    (h : ∀ x ∈ form.reals v, Codec.real.Carries x) : form.codec.ReadsBack v := by
  cases form with
  | descriptor => exact Descriptor.readsBack fun x hx => h x (Option.mem_toList.2 hx)
  | info | publishedInfo =>
    exact ServiceInfo.readsBack fun d hd x hx =>
      h x (List.mem_flatMap.2 ⟨d, hd, Option.mem_toList.2 hx⟩)
  | toggle => exact Toggle.readsBack fun x hx => h x (Option.mem_toList.2 hx)
  | status =>
    exact ServiceStatus.readsBack fun t ht x hx =>
      h x (List.mem_flatMap.2 ⟨t, ht, Option.mem_toList.2 hx⟩)
  | command => exact Command.readsBack fun x hx => h x (Option.mem_toList.2 hx)
  | reply => exact Reply.readsBack v
  | networkRequest => exact NetworkRequest.readsBack v
  | exceptionRequest => exact ExceptionRequest.readsBack fun x hx => h x (Option.mem_toList.2 hx)
  | latencyRequest => exact LatencyRequest.readsBack fun x hx => h x (Option.mem_toList.2 hx)
  | response => exact ActionResponse.readsBack v
  | stopSummary => exact StopSummary.readsBack v
  | stopAllResponse => exact StopAllResponse.readsBack v
  | record => exact FaultRecord.readsBack valid
  | serviceEntry => exact ServiceEntry.readsBack v
  | identity => exact Identity.readsBack v
  | configuration => exact Config.readsBack v

/-- What is written for a valid value is read as that value, and what a document is read as is
written and read again without a change. -/
theorem round_trip (form : Form) (v : form.Value)
    (h : ∀ x ∈ form.reals v, Codec.real.Carries x) :
    (form.IsValid v → form.Reads (form.codec.encode v) v) ∧
      ∀ doc, form.Reads doc v → form.Reads (form.codec.encode v) v := by
  have hwritten : form.IsValid v → form.Reads (form.codec.encode v) v :=
    fun valid => reads_iff.2 ⟨(readsBack valid h).carries, valid⟩
  exact ⟨hwritten, fun _ reads => hwritten (reads_iff.1 reads).2⟩

/-- A description with a character that is escaped and with a double. -/
def quotedInfo : ServiceInfo where
  serviceId := "a\"b"
  faults := [{ id := "slow", defaultProbability := some 0.5 }]

/-- A document of that description in another layout: arrays of the fields in order, another escape
for the quote, another decimal for the double. -/
def quotedDocument : String :=
  "[\"\",\"a\\u0022b\",\"\",\"\",[[\"slow\",\"\",\"\",\"\",null,null,5e-1]]]"

theorem round_trip_quoted :
    (∀ x ∈ reals .publishedInfo quotedInfo, Codec.real.Carries x) ∧
      Reads .publishedInfo quotedDocument quotedInfo ∧
      Reads .publishedInfo ((codec .publishedInfo).encode quotedInfo) quotedInfo := by
  have hreals : ∀ x ∈ reals .publishedInfo quotedInfo, Codec.real.Carries x := by
    intro x hx
    obtain rfl : x = 0.5 := List.mem_singleton.1 hx
    unfold Codec.Carries
    decide +kernel
  have hread : ServiceInfo.ofDocument quotedDocument = .ok quotedInfo := by decide +kernel
  exact ⟨hreals, hread, (round_trip .publishedInfo quotedInfo hreals).2 quotedDocument hread⟩

end Form

end FaultPlane
