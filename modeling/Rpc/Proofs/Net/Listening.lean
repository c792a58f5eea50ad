import Rpc.Net.Resolver.Basic
import Rpc.Proofs.Net.Endpoints

/-! # All forms of an address agree

An address and a port can be written as a socket, as the canonical address of an endpoint, as the
text of the socket behind a scheme, and the address also alone. A client that dials any of them and
a listener that is given it mean the same socket, and every resolver takes the host for the address.
-/
namespace Rpc.Net

open Text

/-! ## Telling the forms apart -/

theorem mem_of_holds {part cs : List Char} (h : holds part cs = true) : ∀ c ∈ part, c ∈ cs := by
  induction cs with
  | nil =>
    rw [List.isEmpty_iff.mp h]
    exact fun c hc => hc
  | cons x cs ih =>
    rw [holds, Bool.or_eq_true] at h
    intro c hc
    rcases h with h | h
    · exact (List.isPrefixOf_iff_prefix.mp h).subset hc
    · exact List.mem_cons_of_mem x (ih h c hc)

theorem holds_append (part before behind : List Char) :
    holds part (before ++ (part ++ behind)) = true := by
  induction before with
  | nil =>
    rw [List.nil_append]
    cases part with
    | nil =>
      cases behind with
      | nil => rfl
      | cons c cs => rfl
    | cons p ps =>
      rw [List.cons_append, holds, Bool.or_eq_true]
      exact Or.inl (List.isPrefixOf_iff_prefix.mpr (List.prefix_append (p :: ps) behind))
  | cons x before ih =>
    rw [List.cons_append, holds, ih, Bool.or_true]

/-- An address with a slash may have a scheme; one without has none. -/
theorem parseListenAddress_of_not_mem {address : String} (h : '/' ∉ address.toList) :
    parseListenAddress address =
      match Socket.ofText? address with
      | some a => .ok a
      | none =>
        match Ip.ofChars? (unbracketed address.toList) with
        | some ip => .ok ⟨ip, Endpoint.defaultPort false, 0⟩
        | none => if address.isEmpty then .error .missingHost else .error (.notAnIp address) := by
  have hholds : ¬(holds [':', '/', '/'] address.toList = true) := fun hholds =>
    h (mem_of_holds hholds '/' (by decide))
  rw [parseListenAddress]
  exact if_neg hholds

theorem unbracketed_eq_self {cs : List Char} (h : cs.head? ≠ some '[') : unbracketed cs = cs := by
  unfold unbracketed
  split
  · exact absurd rfl h
  · rfl

theorem unbracketed_bracketed (cs : List Char) : unbracketed ('[' :: cs ++ [']']) = cs := by
  rw [List.cons_append, unbracketed, if_pos List.getLast?_concat, List.dropLast_concat]

namespace Ip

theorem head_display_ne (ip : Ip) : ip.display.toList.head? ≠ some '[' :=
  fun h => ip.not_mem_display (by decide) (List.mem_of_head? h)

theorem count_display_ne (ip : Ip) : ip.display.toList.count ':' ≠ 1 := by
  cases ip with
  | v4 ip =>
    have hcount := List.count_eq_zero.mpr ip.colon_not_mem_display
    rw [display]
    omega
  | v6 ip =>
    have hcount := ip.two_le_count_display
    rw [display]
    omega

/-! ## Listeners -/

/-- An address alone leaves the port to the plain scheme. -/
theorem parseListenAddress_display (ip : Ip) :
    parseListenAddress ip.display = .ok ⟨ip, Endpoint.defaultPort false, 0⟩ := by
  have hslash : '/' ∉ ip.display.toList := ip.not_mem_display (by decide)
  have hread : ofChars? ip.display.toList = some ip := ip.ofText?_display
  rw [parseListenAddress_of_not_mem hslash,
    Socket.ofText?_eq_none ip.head_display_ne ip.count_display_ne,
    unbracketed_eq_self ip.head_display_ne, hread]

theorem parseListenAddress_bracketed (ip : Ipv6) :
    parseListenAddress s!"[{ip.display}]" = .ok ⟨.v6 ip, Endpoint.defaultPort false, 0⟩ := by
  have htext : (s!"[{ip.display}]").toList = '[' :: ip.display.toList ++ [']'] := by
    have hopen : "[".toList = ['['] := by decide
    have hclose : "]".toList = [']'] := by decide
    have hself : ∀ s : String, toString s = s := fun _ => rfl
    simp only [hself, String.toList_append, hopen, hclose, List.cons_append, List.nil_append]
  have hslash : '/' ∉ (s!"[{ip.display}]").toList := by
    rw [htext]
    simp [show '/' ∉ ip.display.toList from Ip.not_mem_display (.v6 ip) (by decide)]
  have hclose : ']' ∉ ip.display.toList := Ip.not_mem_display (.v6 ip) (by decide)
  have hread : ofChars? ip.display.toList = some (.v6 ip) := (Ip.v6 ip).ofText?_display
  have hsocket : Socket.ofText? s!"[{ip.display}]" = none := by
    rw [Socket.ofText?, htext, List.cons_append]
    simp only [pieces_append hclose]
    rfl
  rw [parseListenAddress_of_not_mem hslash, hsocket, htext, unbracketed_bracketed, hread]

end Ip

namespace Socket

theorem toList_display (ip : Ip) (port : UInt16) :
    (Socket.mk ip port 0).display.toList =
      Endpoint.written ip.display ++ ':' :: Nat.toDigits 10 port.toNat := by
  cases ip with
  | v4 ip =>
    rw [Ip.display, Endpoint.written,
      if_neg fun hmem => ip.colon_not_mem_display (List.contains_iff_mem.mp hmem)]
    exact toList_display_v4 ip port 0
  | v6 ip =>
    rw [Ip.display, Endpoint.written, if_pos (List.contains_iff_mem.mpr ip.colon_mem_display),
      toList_display_v6, List.append_assoc]
    rfl

theorem slash_not_mem_display (ip : Ip) (port : UInt16) :
    '/' ∉ (Socket.mk ip port 0).display.toList := by
  have hslash : '/' ∉ ip.display.toList := ip.not_mem_display (by decide)
  have hport : '/' ∉ Nat.toDigits 10 port.toNat :=
    not_mem_toDigits (by decide) (by decide) (by decide)
  have hhost : '/' ∉ Endpoint.written ip.display := by
    rw [Endpoint.written]
    split
    · simp [hslash]
    · exact hslash
  simp [toList_display, hhost, hport]

/-- The text of a socket keeps its port, also port zero. -/
theorem parseListenAddress_display (ip : Ip) (port : UInt16) :
    parseListenAddress (Socket.mk ip port 0).display = .ok ⟨ip, port, 0⟩ := by
  rw [parseListenAddress_of_not_mem (slash_not_mem_display ip port), ofText?_display]

end Socket

namespace Endpoint

theorem hasHost_display (ip : Ip) : HasHost ip.display := by
  cases ip with
  | v6 ip => exact .ip ip
  | v4 ip =>
    have hhost : ∀ c ∈ ip.display.toList, Uri.isHostChar c = true := by
      intro c hc
      refine Uri.isHostChar_of_mem_addressChars c (ip.mem_display c hc) ?_
      rintro rfl
      exact ip.colon_not_mem_display hc
    have hname := HasHost.name ip.display_ne_nil hhost
    rwa [String.ofList_toList] at hname

/-- A listener takes the socket that the canonical address of an endpoint names. -/
theorem parseListenAddress_display {ip : Ip} {port : UInt16} (hport : port ≠ 0) (tls : Bool) :
    parseListenAddress (Endpoint.mk ip.display port tls).display = .ok ⟨ip, port, 0⟩ := by
  have hholds : holds [':', '/', '/'] (Endpoint.mk ip.display port tls).display.toList = true := by
    rw [toList_display]
    exact holds_append [':', '/', '/'] _ _
  have hparse : parse (Endpoint.mk ip.display port tls).display = .ok ⟨ip.display, port, tls⟩ :=
    parse_display_of_hasHost (hasHost_display ip) hport
  rw [parseListenAddress, if_pos hholds, hparse]
  simp only [bind, Except.bind, Ip.ofText?_display]
  rfl

/-- The text of a socket behind a scheme. -/
theorem parse_socket (ip : Ip) (port : UInt16) (tls : Bool) :
    parse (schemeFor tls ++ "://" ++ (Socket.mk ip port 0).display) =
      .ok ⟨ip.display, portOr tls port, tls⟩ := by
  have hstart : "://".toList = [':', '/', '/'] := by decide
  have htext : schemeFor tls ++ "://" ++ (Socket.mk ip port 0).display =
      String.ofList ((schemeFor tls).toList ++ ':' :: '/' :: '/' ::
        (written ip.display ++ ':' :: (Nat.toDigits 10 port.toNat ++ []))) := by
    apply String.toList_injective
    simp only [String.toList_append, String.toList_ofList, hstart, Socket.toList_display,
      List.append_assoc, List.cons_append, List.nil_append, List.append_nil]
  obtain ⟨uhost, ht, hname⟩ := (hasHost_display ip).written
  rw [htext]
  exact parse_of_isHostText ht hname tls port (Or.inl rfl)

/-! ## All forms -/

/-- An address and a port mean the same in every form: as an endpoint, as its canonical address, and
as a socket behind a scheme; to the resolvers that look names up, each in its own network, and to a
table that does not list the address; and to a listener, which is also content with the address
alone. Only a socket keeps port zero, which leaves the port of an endpoint to its scheme. -/
theorem forms_agree (ip : Ip) (port : UInt16) (tls : Bool)
    (query : String → Except String (List Ip)) {t : HostTable}
    (hunlisted : t.hosts.lookup ip.display = none) :
    let a : Socket := ⟨ip, port, 0⟩
    let e := ofSocket a tls
    (parse e.display = .ok e ∧ parse (schemeFor tls ++ "://" ++ a.display) = .ok e) ∧
    (resolveWith (askNetwork query) e.host = .ok ip ∧ t.resolve e.host = .ok ip) ∧
    (parseListenAddress a.display = .ok a ∧
      parseListenAddress e.display = .ok ⟨ip, e.port, 0⟩ ∧
      parseListenAddress ip.display = .ok ⟨ip, defaultPort false, 0⟩ ∧
      ∀ long, ip = .v6 long →
        parseListenAddress s!"[{long.display}]" = .ok ⟨ip, defaultPort false, 0⟩) ∧
    e.port = if port = 0 then defaultPort tls else port := by
  have hport : portOr tls port ≠ 0 := portOr_ne_zero tls port
  have hread : ∀ ask, resolveWith ask ip.display = .ok ip := by
    intro ask
    rw [resolveWith, ip.ofText?_display]
  refine ⟨⟨?_, ?_⟩, ⟨?_, ?_⟩, ⟨?_, ?_, ?_, ?_⟩, ?_⟩
  · exact parse_display_of_hasHost (hasHost_display ip) hport
  · exact parse_socket ip port tls
  · exact hread _
  · rw [HostTable.resolve]
    simp only [ofSocket, hunlisted]
    exact hread _
  · exact Socket.parseListenAddress_display ip port
  · exact parseListenAddress_display hport tls
  · exact ip.parseListenAddress_display
  · rintro long rfl
    exact Ip.parseListenAddress_bracketed long
  · rfl

/-- A wrapped short address with port zero. -/
theorem wrapped_forms_agree :
    (HostTable.ofList [("localhost", .loopback)]).hosts.lookup "::ffff:10.0.0.1" = none ∧
    parse "mortars://[::ffff:10.0.0.1]:0" = .ok ⟨"::ffff:10.0.0.1", 25156, true⟩ ∧
    parseListenAddress "[::ffff:10.0.0.1]:0" =
      .ok ⟨.v6 ⟨[0, 0, 0, 0, 0, 0xffff, 0x0a00, 1], rfl⟩, 0, 0⟩ := by
  have hunlisted :
      (HostTable.ofList [("localhost", .loopback)]).hosts.lookup "::ffff:10.0.0.1" = none := by
    decide
  have hforms := forms_agree (.v6 ⟨[0, 0, 0, 0, 0, 0xffff, 0x0a00, 1], rfl⟩) 0 true
    (fun _ => .error "no network") hunlisted
  exact ⟨hunlisted, hforms.1.2, hforms.2.2.1.1⟩

end Endpoint

end Rpc.Net
