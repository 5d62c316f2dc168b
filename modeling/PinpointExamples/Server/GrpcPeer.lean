import Mathlib
import PinpointExamples.Server.GrpcInterceptor

/-!
# The peer host of an RPC

gRPC hands out the peer of an RPC as a string with a scheme: an IPv4 host and a port, an IPv6 host in brackets (plain
or percent-encoded) and a port, or a socket path.  `ResolvePeerHost` drops the scheme, then the port, then the
brackets (`resolvePeerHost_eq`).  What is left is the host except for an empty IPv6 host, whose brackets stay, and for
the zone of a percent-encoded host, which is not decoded (`resolve_peer_host_iff`).
-/

namespace PinpointExamples.GrpcServer

/-- The host that stands for a peer without one. -/
def fallbackHost : Str := "127.0.0.1"

def orFallback (host : Str) : Str := if host.isEmpty then fallbackHost else host

/-- A dotted IPv4 host, or none. -/
structure Ipv4Host where
  text : Str
  chars : ∀ c ∈ text, c.isDigit = true ∨ c = '.'

/-- An IPv6 host: the address, and the scope id behind a `%`. -/
structure Ipv6Host where
  address : Str
  zone : Option Str
  addressChars : ∀ c ∈ address, c ≠ '%' ∧ c ≠ '[' ∧ c ≠ ']'
  zoneChars : ∀ s ∈ zone, ∀ c ∈ s, c ≠ '[' ∧ c ≠ ']'

def Ipv6Host.text (host : Ipv6Host) : Str := host.address ++ host.zone.elim [] fun zone => '%' :: zone

structure Port where
  text : Str
  digits : ∀ c ∈ text, c.isDigit = true

def percentEncodeChar (c : Char) : Str :=
  if c = '[' then "%5B" else if c = ']' then "%5D" else if c = '%' then "%25" else [c]

/-- The percent-encoding of a host in a peer string. -/
def percentEncode (s : Str) : Str := s.flatMap percentEncodeChar

inductive Peer
  | ipv4 (host : Ipv4Host) (port : Port)
  | ipv6 (host : Ipv6Host) (port : Port)
  | ipv6Encoded (host : Ipv6Host) (port : Port)
  | unix (path : Str)
  | unixAbstract (name : Str)

namespace Peer

/-- The peer string. -/
def text : Peer → Str
  | ipv4 host port => "ipv4:" ++ (host.text ++ ':' :: port.text)
  | ipv6 host port => "ipv6:" ++ ("[" ++ host.text ++ "]" ++ ':' :: port.text)
  | ipv6Encoded host port => "ipv6:" ++ (percentEncode ("[" ++ host.text ++ "]") ++ ':' :: port.text)
  | unix path => "unix:" ++ path
  | unixAbstract name => "unix-abstract:" ++ name

/-- The host to be recorded for the peer. -/
def host : Peer → Str
  | ipv4 host _ => orFallback host.text
  | ipv6 host _ | ipv6Encoded host _ => orFallback host.text
  | unix _ | unixAbstract _ => fallbackHost

/-- The IPv6 host is not empty, and has no zone if it is percent-encoded. -/
def Plain : Peer → Prop
  | ipv6 host _ => host.text ≠ []
  | ipv6Encoded host _ => host.text ≠ [] ∧ host.zone = none
  | ipv4 .. | unix _ | unixAbstract _ => True

end Peer

/-! ### The steps of `ResolvePeerHost` -/

/-- The brackets are dropped from a host, plain or percent-encoded. -/
def dropBrackets (peer : Str) : Str :=
  if 2 < peer.length && peer.head? = some '[' && peer.getLast? = some ']' then
    (peer.drop 1).take (peer.length - 2)
  else if 6 < peer.length && ("%5B" : Str).isPrefixOf peer && peer.drop (peer.length - 3) = ("%5D" : Str) then
    (peer.drop 3).take (peer.length - 6)
  else peer

private theorem resolvePeerHost_of_unix (rest : Str) : resolvePeerHost ("unix" ++ rest) = fallbackHost := rfl

private theorem orFallback_nil : orFallback [] = fallbackHost := rfl

private theorem orFallback_of_ne_nil {host : Str} (h : host ≠ []) : orFallback host = host := by
  have hne : ¬ host.isEmpty = true := by simpa using h
  rw [orFallback, if_neg hne]

private theorem orFallback_ne_nil (host : Str) : orFallback host ≠ [] := by
  by_cases h : host = []
  · rw [h, orFallback_nil]
    decide
  · rwa [orFallback_of_ne_nil h]

/-- Behind the scheme and before the port there is the host, with its brackets. -/
theorem resolvePeerHost_eq {scheme : Str} (hs : scheme = "ipv4:" ∨ scheme = "ipv6:") (host : Str) (port : Port) :
    resolvePeerHost (scheme ++ (host ++ ':' :: port.text)) = orFallback (dropBrackets host) := by
  have hcolon : ':' ∉ port.text := fun h => absurd (port.digits ':' h) (by decide)
  have hunix : ("unix" : Str).isPrefixOf (scheme ++ (host ++ ':' :: port.text)) = false := by
    rcases hs with rfl | rfl <;> rfl
  have hscheme : (("ipv4:" : Str).isPrefixOf (scheme ++ (host ++ ':' :: port.text)) ||
      ("ipv6:" : Str).isPrefixOf (scheme ++ (host ++ ':' :: port.text))) = true := by
    rcases hs with rfl | rfl <;> simp
  have hdrop : (scheme ++ (host ++ ':' :: port.text)).drop 5 = host ++ ':' :: port.text := by
    rcases hs with rfl | rfl <;> rfl
  unfold resolvePeerHost
  simp only [hunix, hscheme, hdrop, rfindChar_append_cons host hcolon, List.take_left, if_true, Bool.false_eq_true,
    if_false]
  rfl

private theorem dropBrackets_brackets {host : Str} (h : host ≠ []) : dropBrackets ("[" ++ host ++ "]") = host := by
  have hpos : 0 < host.length := List.length_pos_iff.2 h
  have hlen : ("[" ++ host ++ "]").length = host.length + 2 := by simp
  have hhead : ("[" ++ host ++ "]").head? = some '[' := rfl
  have hlast : ("[" ++ host ++ "]").getLast? = some ']' := List.getLast?_concat
  have hcond : (2 < ("[" ++ host ++ "]").length && ("[" ++ host ++ "]").head? = some '[' &&
      ("[" ++ host ++ "]").getLast? = some ']') = true := by
    rw [hlen, hhead, hlast]
    simp [hpos]
  rw [dropBrackets, if_pos hcond, hlen]
  simp

private theorem dropBrackets_percentBrackets {host : Str} (h : host ≠ []) :
    dropBrackets ("%5B" ++ host ++ "%5D") = host := by
  have hpos : 0 < host.length := List.length_pos_iff.2 h
  have hlen : ("%5B" ++ host ++ "%5D").length = host.length + 6 := by simp
  have hplain : ¬ (2 < ("%5B" ++ host ++ "%5D").length && ("%5B" ++ host ++ "%5D").head? = some '[' &&
      ("%5B" ++ host ++ "%5D").getLast? = some ']') = true := by
    simp
  have hend : ("%5B" ++ host ++ "%5D").drop (host.length + 3) = ("%5D" : Str) := by
    rw [List.append_assoc, List.drop_append]
    simp
  have hcond : (6 < ("%5B" ++ host ++ "%5D").length && ("%5B" : Str).isPrefixOf ("%5B" ++ host ++ "%5D") &&
      ("%5B" ++ host ++ "%5D").drop (("%5B" ++ host ++ "%5D").length - 3) = ("%5D" : Str)) = true := by
    rw [hlen, Nat.add_sub_assoc (by omega), hend]
    simp [hpos]
  rw [dropBrackets, if_neg hplain, if_pos hcond, hlen]
  simp

/-- A host that starts with neither bracket has none. -/
theorem dropBrackets_of_head {host : Str} (hb : host.head? ≠ some '[') (hp : host.head? ≠ some '%') :
    dropBrackets host = host := by
  have hplain : ¬ (2 < host.length && host.head? = some '[' && host.getLast? = some ']') = true := by simp [hb]
  have hencoded : ¬ (6 < host.length && ("%5B" : Str).isPrefixOf host &&
      host.drop (host.length - 3) = ("%5D" : Str)) = true := by
    cases host with
    | nil => simp
    | cons c host =>
      have hc : ¬ '%' = c := by simpa [eq_comm] using hp
      simp [hc]
  rw [dropBrackets, if_neg hplain, if_neg hencoded]

private theorem resolvePeerHost_ne_nil (peer : Str) : resolvePeerHost peer ≠ [] := by
  unfold resolvePeerHost
  split
  · decide
  · exact orFallback_ne_nil _

/-! ### Percent-encoding -/

private theorem percentEncode_append (s s' : Str) : percentEncode (s ++ s') = percentEncode s ++ percentEncode s' :=
  List.flatMap_append ..

private theorem percentEncode_brackets (host : Str) :
    percentEncode ("[" ++ host ++ "]") = "%5B" ++ percentEncode host ++ "%5D" := by
  rw [percentEncode_append, percentEncode_append]
  rfl

private theorem percentEncode_of_plain {s : Str} (h : ∀ c ∈ s, c ≠ '[' ∧ c ≠ ']' ∧ c ≠ '%') :
    percentEncode s = s := by
  induction s with
  | nil => rfl
  | cons c s ih =>
    obtain ⟨hopen, hclose, hpercent⟩ := h c List.mem_cons_self
    have hc : percentEncodeChar c = [c] := by
      rw [percentEncodeChar, if_neg hopen, if_neg hclose, if_neg hpercent]
    have hs : percentEncode s = s := ih fun d hd => h d (List.mem_cons_of_mem c hd)
    rw [percentEncode, List.flatMap_cons, hc, ← percentEncode, hs]
    rfl

private theorem length_le_percentEncode (s : Str) : s.length ≤ (percentEncode s).length := by
  induction s with
  | nil => exact Nat.le_refl _
  | cons c s ih =>
    have hc : 1 ≤ (percentEncodeChar c).length := by
      unfold percentEncodeChar
      split
      · simp
      · split
        · simp
        · split
          · simp
          · simp
    have hcons : percentEncode (c :: s) = percentEncodeChar c ++ percentEncode s := List.flatMap_cons
    rw [hcons, List.length_append, List.length_cons]
    omega

private theorem percentEncode_text_iff (host : Ipv6Host) :
    percentEncode host.text = host.text ↔ host.zone = none := by
  have haddress : percentEncode host.address = host.address := by
    apply percentEncode_of_plain
    intro c hc
    have h := host.addressChars c hc
    exact ⟨h.2.1, h.2.2, h.1⟩
  unfold Ipv6Host.text
  rw [percentEncode_append, haddress]
  cases hz : host.zone with
  | none => simp [percentEncode]
  | some zone =>
    constructor
    · intro h
      -- the `%` before the zone takes two more characters
      have hlen := congrArg List.length h
      have hle := length_le_percentEncode zone
      have hzone : percentEncode ('%' :: zone) = ("%25" : Str) ++ percentEncode zone := List.flatMap_cons
      simp only [Option.elim_some, hzone, List.length_append, List.length_cons] at hlen
      simp at hlen
      omega
    · intro h
      cases h

private theorem percentEncode_eq_nil_iff {s : Str} : percentEncode s = [] ↔ s = [] := by
  constructor
  · intro h
    have hle := length_le_percentEncode s
    rw [h] at hle
    exact List.length_eq_zero_iff.1 (Nat.le_zero.1 hle)
  · rintro rfl
    rfl

/-! ### Every peer -/

private theorem resolvePeerHost_ipv4 (host : Ipv4Host) (port : Port) :
    resolvePeerHost ("ipv4:" ++ (host.text ++ ':' :: port.text)) = orFallback host.text := by
  have hhead (c : Char) (hc : ¬ (c.isDigit = true ∨ c = '.')) : host.text.head? ≠ some c := by
    intro h
    exact hc (host.chars c (List.mem_of_mem_head? h))
  have hdrop := dropBrackets_of_head (hhead '[' (by decide)) (hhead '%' (by decide))
  rw [resolvePeerHost_eq (.inl rfl) host.text port, hdrop]

private theorem resolvePeerHost_ipv6_iff (host : Ipv6Host) (port : Port) :
    resolvePeerHost ("ipv6:" ++ ("[" ++ host.text ++ "]" ++ ':' :: port.text)) = orFallback host.text ↔
      host.text ≠ [] := by
  rw [resolvePeerHost_eq (.inr rfl) _ port]
  by_cases h : host.text = []
  · have hbrackets : orFallback (dropBrackets ("[" ++ ([] : Str) ++ "]")) ≠ fallbackHost := by decide
    rw [h, orFallback_nil]
    simpa using hbrackets
  · rw [dropBrackets_brackets h]
    simpa using h

private theorem resolvePeerHost_ipv6Encoded_iff (host : Ipv6Host) (port : Port) :
    resolvePeerHost ("ipv6:" ++ (percentEncode ("[" ++ host.text ++ "]") ++ ':' :: port.text)) =
      orFallback host.text ↔ host.text ≠ [] ∧ host.zone = none := by
  rw [resolvePeerHost_eq (.inr rfl) _ port, percentEncode_brackets]
  by_cases h : host.text = []
  · have hbrackets : orFallback (dropBrackets ("%5B" ++ percentEncode [] ++ "%5D")) ≠ fallbackHost := by decide
    rw [h, orFallback_nil]
    simpa using hbrackets
  · have hencoded : percentEncode host.text ≠ [] := fun he => h (percentEncode_eq_nil_iff.1 he)
    rw [dropBrackets_percentBrackets hencoded, orFallback_of_ne_nil hencoded, orFallback_of_ne_nil h,
      percentEncode_text_iff, and_iff_right h]

/-- The peers whose host comes out: all but an empty IPv6 host, and a percent-encoded one with a zone; and for no
string at all the result is empty. -/
theorem resolve_peer_host_iff (peer : Peer) (s : Str) :
    (resolvePeerHost peer.text = peer.host ↔ peer.Plain) ∧ resolvePeerHost s ≠ [] := by
  refine ⟨?_, resolvePeerHost_ne_nil s⟩
  cases peer with
  | ipv4 host port => exact iff_of_true (resolvePeerHost_ipv4 host port) trivial
  | ipv6 host port => exact resolvePeerHost_ipv6_iff host port
  | ipv6Encoded host port => exact resolvePeerHost_ipv6Encoded_iff host port
  | unix path => exact iff_of_true (resolvePeerHost_of_unix _) trivial
  | unixAbstract name => exact iff_of_true (resolvePeerHost_of_unix _) trivial

/-- The peer `fe80::1%eth0`, in its percent-encoded form. -/
def linkLocalPeer : Peer := .ipv6Encoded ⟨"fe80::1", some "eth0", by simp, by simp⟩ ⟨"1", by simp⟩

/-- The brackets of an empty host stay, and so does the encoding of a zone. -/
theorem peer_host_brackets_and_zone :
    resolvePeerHost "ipv6:[]:1" = "[]" ∧ linkLocalPeer.text = "ipv6:%5Bfe80::1%25eth0%5D:1" ∧
    resolvePeerHost linkLocalPeer.text = "fe80::1%25eth0" ∧
    resolvePeerHost linkLocalPeer.text ≠ linkLocalPeer.host := by
  decide

end PinpointExamples.GrpcServer
