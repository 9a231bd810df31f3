import FaultPlane.Proofs.Config.Validity
import FaultPlane.Proofs.Decimal.Integers
import FaultPlane.Proofs.Plane.Delivery
import FaultPlane.Proofs.Text.Occurrences
import FaultPlane.Proofs.Text.Trimming
import FaultPlane.Service.Address

/-!
# Configured addresses

A service with an address of its own is polled and commanded at this address, without the slashes at
its end. A call goes to the scheme, the credentials, the host and the number after it that the
address has. The path of the call takes the place of the path in the address, so calls go to paths
under that of the address just if it has nothing but slashes (`under_base_iff`). Even then they need
not go to the address as it is written, since its host and number can be written in other ways.
-/

namespace FaultPlane

namespace Service

/-! ### Hosts with names -/

/-- The name of a host in ASCII, which is not read as a number. -/
structure HostName (host : String) : Prop where
  filled : host ≠ ""
  plain : (host.toList.all fun c => !isForbidden c && decide (c.toNat ≤ 0x7F)) = true
  unnumbered : endsInNumber host.toList = false

/-- What stands after a host for its number. -/
def numberText : Option Nat → String
  | none => ""
  | some n => ":" ++ Decimal.ofNat n

theorem cutCredentials_of_not_mem {cs : List Char} (h : '@' ∉ cs) :
    cutCredentials cs = (none, cs) := by
  have hall : cs.reverse.takeWhile (fun c => decide (c ≠ '@')) = cs.reverse := by
    rw [List.takeWhile_eq_self_iff]
    intro c inside
    refine decide_eq_true ?_
    rintro rfl
    exact h (List.mem_reverse.1 inside)
  unfold cutCredentials
  dsimp only
  rw [hall, List.reverse_reverse, if_pos rfl]

theorem toList_numberText (number? : Option Nat) :
    (numberText number?).toList = (number?.map fun n => ':' :: Nat.toDigits 10 n).getD [] := by
  cases number? <;> simp [numberText, Decimal.ofNat]

theorem cutPort_numberText {host : List Char} (named : ∀ c ∈ host, c ≠ ':' ∧ c ≠ '[')
    (filled : host ≠ []) (number? : Option Nat) :
    cutPort (host ++ (numberText number?).toList) = (host, number?.map (Nat.toDigits 10)) := by
  obtain ⟨c, cs, rfl⟩ := List.exists_cons_of_ne_nil filled
  have hopen : c ≠ '[' := (named c List.mem_cons_self).2
  have hhost : ((c :: cs) ++ (numberText number?).toList).takeWhile (fun d => decide (d ≠ ':')) =
      c :: cs := by
    rw [List.takeWhile_append_of_pos fun d inside => decide_eq_true (named d inside).1]
    cases number? <;> simp [toList_numberText]
  unfold cutPort
  dsimp only
  rw [List.cons_append, List.head?_cons, if_neg (by simpa using hopen), ← List.cons_append, hhost,
    List.drop_left, toList_numberText]
  cases number? <;> rfl

theorem portOf_toDigits {scheme : String} {number? : Option Nat}
    (small : ∀ n ∈ number?, n ≤ 65535) :
    portOf scheme (number?.map (Nat.toDigits 10)) =
      .ok (number?.filter fun n => standardPort? scheme ≠ some n) := by
  cases number? with
  | none => rfl
  | some n =>
    have hread : Decimal.digits? (Nat.toDigits 10 n) = some n :=
      Decimal.digits?_eq_some.2 (Decimal.isNumeral_toDigits n)
    obtain ⟨d, ds, hds⟩ := List.exists_cons_of_ne_nil (Nat.toDigits_ne_nil (n := n) (b := 10))
    rw [hds] at hread
    rw [Option.map_some, hds, portOf]
    · rw [hread]
      dsimp only
      rw [if_neg (Nat.not_lt.2 (small n rfl)), Option.filter_some]
      by_cases standard : standardPort? scheme = some n
      · rw [if_pos standard, if_neg (by simpa using standard)]
        rfl
      · rw [if_neg standard, if_pos (by simpa using standard)]
        rfl
    · simp

theorem HostName.isForbidden_of_mem {host : String} (name : HostName host) :
    ∀ c ∈ host.toList, isForbidden c = false ∧ c.toNat ≤ 0x7F :=
  fun c inside => by simpa using List.all_eq_true.1 name.plain c inside

theorem webHost_name {host : String} (name : HostName host) :
    webHost host.toList = .ok (Text.asciiLower host) := by
  have hforeign : (host.toList.any fun c => decide (0x7F < c.toNat)) = false :=
    List.any_eq_false.2 fun c inside => by simpa using (name.isForbidden_of_mem c inside).2
  have hforbidden : host.toList.any isForbidden = false :=
    List.any_eq_false.2 fun c inside => by simp [(name.isForbidden_of_mem c inside).1]
  rw [webHost]
  · rw [if_neg (by simp [hforeign]), if_neg (by simp [hforbidden]),
      if_neg (by simp [name.unnumbered])]
    rfl
  · exact fun empty => name.filled (String.toList_eq_nil_iff.1 empty)
  · intro rest group
    have hopen := (name.isForbidden_of_mem '[' (by simp [group])).1
    cases hopen

theorem originOf_name {scheme host : String} (web : isWebScheme scheme = true)
    (name : HostName host) {number? : Option Nat} (small : ∀ n ∈ number?, n ≤ 65535) :
    originOf scheme (host ++ numberText number?).toList =
      .ok ⟨scheme, "", Text.asciiLower host,
        number?.filter fun n => standardPort? scheme ≠ some n⟩ := by
  have hother : ∀ d, isForbidden d = true → d ∉ host.toList := by
    intro d forbidden inside
    rw [(name.isForbidden_of_mem d inside).1] at forbidden
    cases forbidden
  have hcredentials : '@' ∉ (host ++ numberText number?).toList := by
    rw [String.toList_append, List.mem_append, toList_numberText]
    rintro (inside | inside)
    · exact hother '@' rfl inside
    · cases number? with
      | none => cases inside
      | some n =>
        rcases List.mem_cons.1 inside with hsign | hdigit
        · cases hsign
        · cases Decimal.isDigit_of_mem_toDigits hdigit
  have hcut := cutPort_numberText
    (fun c inside => ⟨fun h => hother ':' rfl (h ▸ inside), fun h => hother '[' rfl (h ▸ inside)⟩)
    (fun empty => name.filled (String.toList_eq_nil_iff.1 empty)) number?
  unfold originOf
  dsimp only
  rw [cutCredentials_of_not_mem hcredentials, String.toList_append, hcut, if_pos web]
  dsimp only
  rw [webHost_name name, portOf_toDigits small]
  rfl

/-! ### Addresses of the web -/

/-- An address of the web in its parts, without blanks. What follows the authority starts with a
slash. -/
structure WebAddress where
  secure : Bool := false
  authority : String
  path : String := ""
  hosted : authority ≠ "" := by decide
  uncut : (authority.toList.all fun c => !endsAuthority true c) = true := by decide
  rooted : path.toList.head?.all (· = '/') = true := by decide
  printed : ((authority.toList ++ path.toList).all fun c => !isPadding c) = true := by decide

namespace WebAddress

variable (a : WebAddress)

def scheme : String := if a.secure then "https" else "http"

/-- The address without its path. -/
def root : String := a.scheme ++ "://" ++ a.authority

def text : String := a.root ++ a.path

/-- The address without the slashes at its end. -/
def base : WebAddress where
  secure := a.secure
  authority := a.authority
  path := Text.dropTrailing '/' a.path
  hosted := a.hosted
  uncut := a.uncut
  rooted := by
    have hrooted := a.rooted
    rw [Option.all_eq_true] at hrooted ⊢
    intro c first
    rw [Text.toList_dropTrailing] at first
    obtain ⟨rest, hrest⟩ := a.path.toList.rdropWhile_prefix (· == '/')
    refine hrooted c ?_
    rw [← hrest, List.head?_append, first]
    rfl
  printed := by
    have hprinted := a.printed
    rw [List.all_append, Bool.and_eq_true] at hprinted ⊢
    refine ⟨hprinted.1, List.all_eq_true.2 fun c inside => ?_⟩
    rw [Text.toList_dropTrailing] at inside
    exact List.all_eq_true.1 hprinted.2 c ((a.path.toList.rdropWhile_prefix _).subset inside)

/-- What the endpoints under the address have in common. -/
def origin : Except AddressProblem Origin := originOf a.scheme a.authority.toList

theorem authority_ne_nil : a.authority.toList ≠ [] :=
  fun h => a.hosted (String.toList_eq_nil_iff.1 h)

theorem endsAuthority_of_mem : ∀ c ∈ a.authority.toList, endsAuthority true c = false :=
  fun c inside => by simpa using List.all_eq_true.1 a.uncut c inside

theorem dropTrailing_root : Text.dropTrailing '/' a.root = a.root := by
  rw [Text.dropTrailing_eq_self_iff, root, String.toList_append,
    List.getLast?_append_of_ne_nil _ a.authority_ne_nil]
  intro last
  have hslash := a.endsAuthority_of_mem '/' (List.mem_of_getLast? last)
  cases hslash

theorem dropTrailing_text : Text.dropTrailing '/' a.text = a.base.text :=
  Text.dropTrailing_append a.dropTrailing_root a.path

/-! ### Reading -/

theorem toList_text :
    a.text.toList =
      a.scheme.toList ++ ':' :: '/' :: '/' :: (a.authority.toList ++ a.path.toList) := by
  simp [text, root]

theorem isPadding_of_mem_text : ∀ c ∈ a.text.toList, isPadding c = false := by
  have hscheme : ((a.scheme ++ "://").toList.all fun c => !isPadding c) = true := by
    rw [scheme]
    split <;> rfl
  have hall : (a.text.toList.all fun c => !isPadding c) = true := by
    rw [text, root, String.append_assoc, String.toList_append, List.all_append, hscheme,
      String.toList_append, a.printed]
    rfl
  exact fun c inside => by simpa using List.all_eq_true.1 hall c inside

theorem cleaned_text : cleaned a.text = a.text.toList := by
  have hstrip : Text.stripBoth isPadding a.text.toList = a.text.toList :=
    Text.stripBoth_eq_self isPadding
      (fun c first => a.isPadding_of_mem_text c (List.mem_of_head? first))
      fun c last => a.isPadding_of_mem_text c (List.mem_of_getLast? last)
  change (Text.stripBoth isPadding a.text.toList).filter _ = _
  rw [hstrip, List.filter_eq_self]
  intro c inside
  have hne : ∀ d, isPadding d = true → c ≠ d := by
    rintro d padding rfl
    rw [a.isPadding_of_mem_text c inside] at padding
    cases padding
  simp [hne '\t' rfl, hne '\n' rfl, hne '\r' rfl]

theorem scheme?_text :
    scheme? a.text.toList =
      some (a.scheme, '/' :: '/' :: (a.authority.toList ++ a.path.toList)) := by
  rw [toList_text, scheme]
  split <;> rfl

theorem isWebScheme_scheme : isWebScheme a.scheme = true := by
  rw [scheme]
  split <;> rfl

theorem dropWhile_slashes :
    ('/' :: '/' :: (a.authority.toList ++ a.path.toList)).dropWhile (fun c => c = '/' || c = '\\') =
      a.authority.toList ++ a.path.toList := by
  rw [List.dropWhile_cons_of_pos rfl, List.dropWhile_cons_of_pos rfl]
  obtain ⟨c, cs, hcs⟩ := List.exists_cons_of_ne_nil a.authority_ne_nil
  have hc : endsAuthority true c = false := a.endsAuthority_of_mem c (by simp [hcs])
  rw [hcs, List.cons_append, List.dropWhile_cons_of_neg]
  intro slash
  have hslash : c = '/' ∨ c = '\\' := by simpa using slash
  rcases hslash with rfl | rfl <;> cases hc

theorem takeWhile_authority :
    (a.authority.toList ++ a.path.toList).takeWhile (fun c => !endsAuthority true c) =
      a.authority.toList := by
  rw [List.takeWhile_append_of_pos fun c inside => by simp [a.endsAuthority_of_mem c inside]]
  have hrooted := a.rooted
  cases hpath : a.path.toList with
  | nil => rw [List.takeWhile_nil, List.append_nil]
  | cons c cs =>
    rw [hpath] at hrooted
    obtain rfl : c = '/' := by simpa using hrooted
    rw [List.takeWhile_cons_of_neg (by decide), List.append_nil]

theorem resolve_text (target : String) : resolve a.text target = a.origin.map (·.at target) := by
  rw [resolve, cleaned_text, scheme?_text]
  dsimp only
  rw [if_pos a.isWebScheme_scheme, a.dropWhile_slashes, a.takeWhile_authority]
  rfl

end WebAddress

/-! ### Where calls go -/

theorem Origin.at_append (o : Origin) (front back : String) :
    o.at (front ++ back) = o.at front ++ back := by
  simp only [Origin.at, String.append_assoc]

theorem Origin.at_inj (o : Origin) {path path' : String} :
    o.at path = o.at path' ↔ path = path' := by
  simp only [Origin.at, String.append_right_inj]

theorem scheme_of_originOf {scheme : String} (web : isWebScheme scheme = true)
    {authority : List Char} {o : Origin} (h : originOf scheme authority = .ok o) :
    o.scheme = scheme := by
  unfold originOf at h
  dsimp only at h
  rw [if_pos web] at h
  obtain ⟨host, -, h⟩ := bind_eq_ok.1 h
  obtain ⟨digits, -, h⟩ := bind_eq_ok.1 h
  cases h
  rfl

namespace WebAddress

variable (a : WebAddress)

/-- Where a call goes from an endpoint that has the address without the slashes at its end, given
what the address is read as. -/
structure Leads (o : Origin) (e : Endpoint) (c : ServiceCall) : Prop where
  found : c.url e = .ok (o.at c.path)
  under : c.url e = .ok (o.at (a.base.path ++ c.path)) ↔ ∀ ch ∈ a.path.toList, ch = '/'
  -- An origin can be written in several ways. Here the address has it as the calls have it.
  literal : o.at "" = a.root →
    (c.url e = .ok (a.base.text ++ c.path) ↔ ∀ ch ∈ a.path.toList, ch = '/')

theorem base_path_eq_empty_iff : a.base.path = "" ↔ ∀ c ∈ a.path.toList, c = '/' :=
  Text.dropTrailing_eq_empty_iff

theorem isWebAddress_at {o : Origin} (legible : a.origin = .ok o) (path : String) :
    isWebAddress (o.at path) = true := by
  have hscheme : o.scheme = a.scheme := scheme_of_originOf a.isWebScheme_scheme legible
  rw [isWebAddress, Bool.or_eq_true, Text.startsWith_iff, Text.startsWith_iff, Origin.at, hscheme,
    scheme]
  simp only [String.append_assoc]
  split
  · exact Or.inr ⟨_, rfl⟩
  · exact Or.inl ⟨_, rfl⟩

theorem url_text {o : Origin} (legible : a.origin = .ok o) (id : String) (c : ServiceCall) :
    c.url ⟨id, a.text⟩ = .ok (o.at c.path) := by
  have hresolve : resolve a.text c.path = .ok (o.at c.path) := by
    rw [a.resolve_text, legible]
    rfl
  rw [ServiceCall.url, hresolve]
  exact if_pos (a.isWebAddress_at legible c.path)

theorem leads {o : Origin} (legible : a.origin = .ok o) (id : String) (c : ServiceCall) :
    a.Leads o ⟨id, a.base.text⟩ c := by
  have found : c.url ⟨id, a.base.text⟩ = .ok (o.at c.path) := a.base.url_text legible id c
  have under : c.url ⟨id, a.base.text⟩ = .ok (o.at (a.base.path ++ c.path)) ↔
      ∀ ch ∈ a.path.toList, ch = '/' := by
    rw [found, Except.ok.injEq, Origin.at_inj, eq_comm, String.append_eq_right_iff,
      a.base_path_eq_empty_iff]
  refine ⟨found, under, fun canonical => ?_⟩
  have hroot : o.at (a.base.path ++ c.path) = a.base.text ++ c.path := by
    rw [← String.empty_append (s := a.base.path ++ c.path), Origin.at_append, canonical, text,
      String.append_assoc]
    rfl
  rw [← hroot]
  exact under

theorem origin_of_name {host : String} (name : HostName host) {number? : Option Nat}
    (small : ∀ n ∈ number?, n ≤ 65535) (authority : a.authority = host ++ numberText number?) :
    a.origin = .ok ⟨a.scheme, "", Text.asciiLower host,
      number?.filter fun n => standardPort? a.scheme ≠ some n⟩ := by
  rw [origin, authority]
  exact originOf_name a.isWebScheme_scheme name small

end WebAddress

end Service

namespace Plane

open Service (Endpoint HostName ServiceCall WebAddress)
open Contract (Command)
open Discovery
open FaultPlane.Time (Instant)

/-! ### Services with an address of their own -/

/-- A service is polled and commanded at an endpoint, and nowhere else. -/
structure AskedAt (p : Plane) (id : String) (e : Endpoint) : Prop where
  polled : p.PolledAt id e
  commanded : ∀ {ω : Type} (world : World ω) now (command : Command) s w,
    Text.allBlank command.faultId = false →
      .service e (.command command) ∈ (p.toggle now id command).calls world s w
  only : ∀ {ω : Type} (world : World ω) now (command : Command) s w,
    ∀ call ∈ (p.toggle now id command).calls world s w, ∃ c, call = .service e c

variable {p : Plane} {service : ServiceEntry}

theorem askedAt {id : String} (named : Text.allBlank id = false)
    (configured : p.config.service? id = some service) : p.AskedAt id (p.endpointOf id) := by
  refine ⟨p.polledAt configured, ?_, ?_⟩
  · intro ω world now command s w fault
    obtain ⟨answer, later, hexchanges, -⟩ :=
      (p.delivered world now id command s w).asked named fault
    rw [Dialogue.calls_eq_map, hexchanges]
    exact List.mem_cons_self
  · intro ω world now command s w call asked
    have hdelivered := p.delivered world now id command s w
    rw [Dialogue.calls_eq_map] at asked
    by_cases fault : Text.allBlank command.faultId = true
    · rw [(hdelivered.blank (Or.inr fault)).1] at asked
      cases asked
    · obtain ⟨answer, later, hexchanges, hfailed, haccepted⟩ :=
        hdelivered.asked named (by simpa using fault)
      have hlater : ∀ call ∈ later.map (·.1), ∃ c, call = .service (p.endpointOf id) c := by
        cases answer with
        | error failure =>
          rw [(hfailed failure rfl).1]
          simp
        | ok reply =>
          rw [((haccepted reply rfl).2.configured service configured).2]
          simp [pollCalls]
      rw [hexchanges, List.map_cons, List.mem_cons] at asked
      rcases asked with rfl | asked
      · exact ⟨_, rfl⟩
      · exact hlater call asked

/-- A service with an address of the web is polled and commanded at one endpoint, which has this
address without the slashes at its end. From there the calls go to their own paths on the origin of
the address. So they go to paths under that of the address just if this has nothing but slashes, and
under the address as it is written just then too if the address writes the origin as the calls do. A
name with any number after it makes an origin. -/
theorem under_base_iff {a : WebAddress} (valid : p.config.Valid)
    (inside : service ∈ p.config.services) (given : service.address = some a.text) :
    p.AskedAt service.id ⟨service.id, a.base.text⟩ ∧
      (∀ o, a.origin = .ok o → ∀ c : ServiceCall, a.Leads o ⟨service.id, a.base.text⟩ c) ∧
      ∀ host number?, HostName host → (∀ n ∈ number?, n ≤ 65535) →
        a.authority = host ++ Service.numberText number? →
          a.origin = .ok ⟨a.scheme, "", Text.asciiLower host,
            number?.filter fun n => Service.standardPort? a.scheme ≠ some n⟩ := by
  have configured : p.config.service? service.id = some service :=
    (Config.service?_eq_some_iff valid.distinct).2 ⟨inside, rfl⟩
  have hendpoint : p.endpointOf service.id = ⟨service.id, a.base.text⟩ := by
    rw [p.endpointOf_configured configured, ServiceEntry.endpoint, ServiceEntry.baseUrl, given]
    exact congrArg _ a.dropTrailing_text
  refine ⟨?_, fun o legible => a.leads legible service.id, fun host number? name small authority =>
    a.origin_of_name name small authority⟩
  rw [← hendpoint]
  exact askedAt (valid.named service inside) configured

def ordersAddress : WebAddress := { authority := "127.0.0.1:18080", path := "/orders/" }

def seatAddress : WebAddress := { authority := "Seats:8081", path := "//" }

def underPath : ServiceEntry := ⟨"ts-order", "Orders", some "http://127.0.0.1:18080/orders/"⟩

def underRoot : ServiceEntry := ⟨"ts-seat", "Seats", some "http://Seats:8081//"⟩

def ordersUnderPath : Plane := ⟨{ services := [underPath, underRoot] }, {}⟩

theorem valid_ordersUnderPath : ordersUnderPath.config.Valid := Config.check_eq_ok_iff.1 (by decide)

theorem under_base_iff_orders :
    ordersUnderPath.config.Valid ∧ underPath ∈ ordersUnderPath.config.services ∧
      underRoot ∈ ordersUnderPath.config.services ∧
      underPath.address = some ordersAddress.text ∧ underRoot.address = some seatAddress.text ∧
      ordersUnderPath.AskedAt "ts-order" ⟨"ts-order", "http://127.0.0.1:18080/orders"⟩ ∧
      ServiceCall.info.url ⟨"ts-order", "http://127.0.0.1:18080/orders"⟩ =
        .ok "http://127.0.0.1:18080/fault/info" ∧
      ordersUnderPath.AskedAt "ts-seat" ⟨"ts-seat", "http://Seats:8081"⟩ ∧
      ServiceCall.info.url ⟨"ts-seat", "http://Seats:8081"⟩ =
        .ok "http://seats:8081/fault/info" := by
  have orders : underPath ∈ ordersUnderPath.config.services := List.mem_cons_self
  have seats : underRoot ∈ ordersUnderPath.config.services :=
    List.mem_cons_of_mem _ List.mem_cons_self
  have hordersText : underPath.address = some ordersAddress.text := by decide
  have hseatsText : underRoot.address = some seatAddress.text := by decide
  obtain ⟨hordersAsked, horders, -⟩ := under_base_iff valid_ordersUnderPath orders hordersText
  obtain ⟨hseatsAsked, hseats, hnamed⟩ := under_base_iff valid_ordersUnderPath seats hseatsText
  have hordersOrigin : ordersAddress.origin = .ok ⟨"http", "", "127.0.0.1", some 18080⟩ := by decide
  have name : HostName "Seats" := ⟨by decide, by decide, by decide⟩
  have hseatsOrigin := hnamed "Seats" (some 8081) name (by simp) (by decide)
  have hslashes : ∀ c ∈ seatAddress.path.toList, c = '/' :=
    seatAddress.base_path_eq_empty_iff.1 (by decide)
  refine ⟨valid_ordersUnderPath, orders, seats, hordersText, hseatsText, hordersAsked,
    (horders _ hordersOrigin .info).found, hseatsAsked, ?_⟩
  exact ((hseats _ hseatsOrigin .info).under.2 hslashes).trans (by decide)

/-- The calls to a service do not always go to paths under its address. -/
theorem not_always_under_base :
    ¬ ∀ (p : Plane) (service : ServiceEntry) (a : WebAddress) (o : Service.Origin),
      p.config.Valid → service ∈ p.config.services → service.address = some a.text →
        a.origin = .ok o → o.at "" = a.root →
          ∀ c : ServiceCall, c.url (p.endpointOf service.id) = .ok (a.base.text ++ c.path) := by
  intro always
  have hinfo := always ordersUnderPath underPath ordersAddress ⟨"http", "", "127.0.0.1", some 18080⟩
    valid_ordersUnderPath List.mem_cons_self (by decide) (by decide) (by decide) .info
  revert hinfo
  decide

end Plane

end FaultPlane
