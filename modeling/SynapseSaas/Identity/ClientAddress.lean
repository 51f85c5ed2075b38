import SynapseSaas.Core.PythonText

/-! The client address attempts are counted by: `X-Forwarded-For` walked back from the
socket peer to the first hop that is not a trusted proxy. -/

set_option autoImplicit false

namespace SynapseSaas.ClientAddress

/-- The `ipaddress` module: what it makes of a text, where that is no error. -/
structure IpLibrary where
  Address : Type
  Network : Type
  address : Text → Option Address
  network : Text → Option Network
  contains : Network → Address → Bool

/-- The peer of the socket, where there is one, and the headers in their order, with their
names in lower case. -/
structure Request where
  client : Option Text
  headers : List (Text × Text)

def forwardedFor : Text := "x-forwarded-for".toList

/-- `headers.get(name, "")`: the first line of a repeated header. -/
def Request.get (request : Request) (name : Text) : Text := (request.headers.lookup name).getD []

/-- `[h.strip() for h in line.split(",") if h.strip()]`. -/
def hopsOf (line : Text) : List Text := ((line.splitOn ',').map Text.strip).filter (· ≠ [])

def unknown : Text := "unknown".toList

variable (ip : IpLibrary) (trusted : List Text)

/-- `_is_trusted_proxy`. -/
def isTrustedProxy (host : Text) : Bool :=
  match ip.address host with
  | none => false
  | some address =>
    trusted.any fun cidr =>
      match ip.network cidr with
      | some network => ip.contains network address
      | none => false

/-- `_client_ip`. -/
def clientIp (request : Request) : Text :=
  let peer := request.client.getD unknown
  if trusted.isEmpty ∨ ¬ isTrustedProxy ip trusted peer then peer
  else
    match (hopsOf (request.get forwardedFor)).reverse.find? fun hop =>
        ¬ isTrustedProxy ip trusted hop with
    | some hop => hop
    | none => peer

/-- All lines of the header. -/
def Request.lines (request : Request) : List Text :=
  (request.headers.filter fun header => header.1 = forwardedFor).map Prod.snd

def Request.hops (request : Request) : List Text := request.lines.flatMap hopsOf

/-- The last hop that is not a trusted proxy. -/
def lastUntrusted (hops : List Text) : Option Text :=
  (hops.filter fun hop => ¬ isTrustedProxy ip trusted hop).getLast?

/-- The address is the last hop that no trusted proxy stands at. -/
def Named (request : Request) : Prop :=
  some (clientIp ip trusted request) = lastUntrusted ip trusted request.hops

/-- Every hop on the lines after the first is a trusted proxy, or the last that is not is
the last such hop of the first line too. -/
def FirstLineDecides (request : Request) : Prop :=
  lastUntrusted ip trusted (request.lines.tail.flatMap hopsOf) = none ∨
    lastUntrusted ip trusted (request.lines.tail.flatMap hopsOf) =
      lastUntrusted ip trusted (request.lines.head?.elim [] hopsOf)

variable {ip : IpLibrary} {trusted : List Text}

theorem lastUntrusted_append (first second : List Text) :
    lastUntrusted ip trusted (first ++ second) =
      (lastUntrusted ip trusted second).or (lastUntrusted ip trusted first) := by
  rw [lastUntrusted, List.filter_append, List.getLast?_append]
  rfl

theorem lastUntrusted_spec {hops : List Text} {hop : Text}
    (last : lastUntrusted ip trusted hops = some hop) : isTrustedProxy ip trusted hop = false := by
  have kept := (List.mem_filter.mp (List.mem_of_getLast? last)).2
  simpa using kept

/-- What the hops from an untrusted one on say does not depend on those before. -/
theorem lastUntrusted_written {client written : List Text}
    (seen : ∃ hop ∈ written, isTrustedProxy ip trusted hop = false) :
    lastUntrusted ip trusted (client ++ written) = lastUntrusted ip trusted written := by
  obtain ⟨hop, listed, untrusted⟩ := seen
  have kept : hop ∈ written.filter fun hop => ¬ isTrustedProxy ip trusted hop :=
    List.mem_filter.mpr ⟨listed, by simpa using untrusted⟩
  rw [lastUntrusted_append]
  cases last : lastUntrusted ip trusted written with
  | some hop => rfl
  | none =>
      rw [lastUntrusted, List.getLast?_eq_none_iff] at last
      rw [last] at kept
      cases kept

theorem get_eq (request : Request) :
    request.get forwardedFor = request.lines.head?.getD [] := by
  rw [Request.get, Request.lines]
  induction request.headers with
  | nil => rfl
  | cons header rest ih =>
      obtain ⟨name, value⟩ := header
      rw [List.lookup_cons]
      by_cases own : name = forwardedFor
      · subst own
        rw [List.filter_cons_of_pos (by simp), beq_self_eq_true]
        rfl
      · rw [List.filter_cons_of_neg (by simpa using own), beq_false_of_ne (Ne.symm own)]
        exact ih

theorem hopsOf_get (request : Request) :
    hopsOf (request.get forwardedFor) = request.lines.head?.elim [] hopsOf := by
  rw [get_eq]
  cases request.lines.head? with
  | none => rfl
  | some line => rfl

theorem hops_eq (request : Request) :
    request.hops = request.lines.head?.elim [] hopsOf ++ request.lines.tail.flatMap hopsOf := by
  rw [Request.hops]
  cases request.lines with
  | nil => rfl
  | cons line rest => rfl

/-- Behind a trusted peer the walk over the first line decides. -/
theorem clientIp_eq {request : Request} {peer : Text} (client : request.client = some peer)
    (proxy : isTrustedProxy ip trusted peer = true) :
    clientIp ip trusted request =
      (lastUntrusted ip trusted (request.lines.head?.elim [] hopsOf)).getD peer := by
  have listed : trusted.isEmpty = false := by
    cases trusted with
    | nil =>
        rw [isTrustedProxy] at proxy
        split at proxy <;> cases proxy
    | cons cidr rest => rfl
  rw [clientIp, client, Option.getD_some, if_neg (by simp [listed, proxy]), hopsOf_get,
    ← List.head?_filter, List.filter_reverse, List.head?_reverse, lastUntrusted]
  cases (List.filter _ _).getLast? with
  | none => rfl
  | some hop => rfl

/-- The walk names the last untrusted hop of all lines exactly if its line decides. -/
theorem named_iff {request : Request} {peer : Text} (client : request.client = some peer)
    (proxy : isTrustedProxy ip trusted peer = true)
    (seen : ∃ hop ∈ request.hops, isTrustedProxy ip trusted hop = false) :
    Named ip trusted request ↔ FirstLineDecides ip trusted request := by
  have some_hop : lastUntrusted ip trusted request.hops ≠ none := by
    obtain ⟨hop, listed, untrusted⟩ := seen
    intro absent
    rw [lastUntrusted, List.getLast?_eq_none_iff, List.filter_eq_nil_iff] at absent
    exact absent hop listed (by simpa using untrusted)
  rw [Named, FirstLineDecides, clientIp_eq client proxy]
  rw [hops_eq, lastUntrusted_append] at some_hop ⊢
  cases later : lastUntrusted ip trusted (request.lines.tail.flatMap hopsOf) with
  | none =>
      rw [later, Option.none_or] at some_hop
      rw [Option.none_or]
      obtain ⟨hop, first⟩ := Option.ne_none_iff_exists'.mp some_hop
      rw [first]
      exact iff_of_true rfl (.inl rfl)
  | some hop =>
      rw [Option.some_or]
      cases first : lastUntrusted ip trusted (request.lines.head?.elim [] hopsOf) with
      | none =>
          -- The peer is a trusted proxy, the last untrusted hop is not.
          refine iff_of_false ?_ (by rintro (absent | absent) <;> cases absent)
          intro same
          have untrusted := lastUntrusted_spec later
          rw [← Option.some.inj same, Option.getD_none, proxy] at untrusted
          cases untrusted
      | some other =>
          rw [Option.getD_some]
          constructor
          · rintro ⟨⟩
            exact .inr rfl
          · rintro (absent | same)
            · cases absent
            · exact same.symm

/-- Two requests from one trusted peer whose hops end alike, whatever the clients wrote
before: both are counted by the last hop that is not a trusted proxy exactly if on both
the first line decides. -/
theorem not_spoofable_iff (ip : IpLibrary) (trusted : List Text) (peer : Text)
    (first second : Request) (client other written : List Text)
    (peer_first : first.client = some peer) (peer_second : second.client = some peer)
    (proxy : isTrustedProxy ip trusted peer = true)
    (hops_first : first.hops = client ++ written) (hops_second : second.hops = other ++ written)
    (seen : ∃ hop ∈ written, isTrustedProxy ip trusted hop = false) :
    (Named ip trusted first ∧ clientIp ip trusted second = clientIp ip trusted first) ↔
      FirstLineDecides ip trusted first ∧ FirstLineDecides ip trusted second := by
  obtain ⟨hop, listed, untrusted⟩ := seen
  rw [← named_iff peer_first proxy ⟨hop, by simp [hops_first, listed], untrusted⟩,
    ← named_iff peer_second proxy ⟨hop, by simp [hops_second, listed], untrusted⟩]
  have same : lastUntrusted ip trusted first.hops = lastUntrusted ip trusted second.hops := by
    rw [hops_first, hops_second, lastUntrusted_written ⟨hop, listed, untrusted⟩,
      lastUntrusted_written ⟨hop, listed, untrusted⟩]
  apply and_congr_right
  intro named
  rw [Named] at named ⊢
  rw [← same, ← named]
  exact ⟨congrArg some, Option.some.inj⟩

/-- Dotted addresses as they are written, and the one network of the samples. -/
def samples : IpLibrary where
  Address := Text
  Network := Text
  address text := if text.all fun char => char.isDigit || char = '.' then some text else none
  network text := if text = "10.0.0.0/8".toList then some "10.".toList else none
  contains network address := network.isPrefixOf address

def privateNet : List Text := ["10.0.0.0/8".toList]

/-- A request over the proxy `10.0.0.5` with the header lines. -/
def forwarded (lines : List String) : Request where
  client := some "10.0.0.5".toList
  headers := lines.map fun line => (forwardedFor, line.toList)

theorem not_spoofable_iff_one_line :
    (Named samples privateNet (forwarded ["6.6.6.6, 203.0.113.9, 10.0.0.7"]) ∧
        clientIp samples privateNet (forwarded ["203.0.113.9,10.0.0.7"]) =
          clientIp samples privateNet (forwarded ["6.6.6.6, 203.0.113.9, 10.0.0.7"])) ↔
      FirstLineDecides samples privateNet (forwarded ["6.6.6.6, 203.0.113.9, 10.0.0.7"]) ∧
        FirstLineDecides samples privateNet (forwarded ["203.0.113.9,10.0.0.7"]) :=
  not_spoofable_iff samples privateNet "10.0.0.5".toList _ _ ["6.6.6.6".toList] []
    ["203.0.113.9".toList, "10.0.0.7".toList] rfl rfl (by decide) (by decide) (by decide)
    (by decide)

/-- A proxy adds a line of its own: what the client wrote on the first one is taken. -/
theorem spoofed_by_first_line :
    ¬ Named samples privateNet (forwarded ["6.6.6.6", "203.0.113.9"]) ∧
      clientIp samples privateNet (forwarded ["6.6.6.6", "203.0.113.9"]) ≠
        clientIp samples privateNet (forwarded ["7.7.7.7", "203.0.113.9"]) := by
  unfold Named
  decide

end SynapseSaas.ClientAddress
