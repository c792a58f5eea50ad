import Rpc.Net.Endpoint
import Rpc.Proofs.Net.Addresses

/-! # The canonical address of an endpoint

Whatever spelling an endpoint was read from, its host is either the canonical text of a long address
or a text of characters that are taken as they stand. The canonical address writes such a host, and
the port, in a way that is cut at the same places again, so it is read as the same endpoint.
-/
namespace Rpc.Net

open Text

namespace Uri

/-! ## Characters of hosts -/

/-- The characters that a host keeps as they are. -/
def isHostChar (c : Char) : Bool := !forbidden.contains c && !mustEncode c

theorem ne_of_isHostChar {c x : Char} (h : isHostChar c = true) (hx : isHostChar x = false) :
    c ≠ x := by
  rintro rfl
  rw [h] at hx
  cases hx

/-- Characters that end nothing and are kept, wherever they stand. -/
def isOrdinary (c : Char) : Bool := !isBlank c && c != '?' && c != '#' && c != '@'

theorem isOrdinary_iff {c : Char} :
    isOrdinary c = true ↔ isBlank c = false ∧ c ≠ '?' ∧ c ≠ '#' ∧ c ≠ '@' := by
  simp [isOrdinary, and_assoc]

theorem not_isBlank_of_isHostChar {c : Char} (h : isHostChar c = true) : isBlank c = false := by
  have hspace : c ≠ ' ' := ne_of_isHostChar h (by decide)
  have hcode : c.toNat ≠ 0x20 := fun heq => hspace (Char.toNat_inj.mp heq)
  simp only [isHostChar, mustEncode, isControl, Bool.and_eq_true, Bool.not_eq_true',
    decide_eq_false_iff_not, not_or, decide_eq_true_eq] at h
  simp only [isBlank, decide_eq_false_iff_not]
  omega

theorem isOrdinary_of_isHostChar {c : Char} (h : isHostChar c = true) : isOrdinary c = true := by
  refine isOrdinary_iff.mpr ⟨?_, ?_⟩
  · exact not_isBlank_of_isHostChar h
  · refine ⟨?_, ?_, ?_⟩
    all_goals exact ne_of_isHostChar h (by decide)

theorem colon_not_mem {cs : List Char} (h : ∀ c ∈ cs, isHostChar c = true) : ':' ∉ cs :=
  fun hmem => ne_of_isHostChar (h ':' hmem) (by decide) rfl

theorem isHostChar_of_mem_addressChars :
    ∀ c ∈ addressChars, c ≠ ':' → isHostChar c = true := by
  have hall : addressChars.all (fun c => c == ':' || isHostChar c) = true := by decide
  intro c hc hne
  have hc := List.all_eq_true.mp hall c hc
  rwa [beq_eq_false_iff_ne.mpr hne, Bool.false_or] at hc

/-- A host of such characters is taken as it stands. -/
theorem encode_eq_self {cs : List Char} (h : ∀ c ∈ cs, isHostChar c = true) :
    encode mustEncode cs = cs := by
  induction cs with
  | nil => rfl
  | cons c cs ih =>
    have hc := h c List.mem_cons_self
    simp only [isHostChar, Bool.and_eq_true, Bool.not_eq_true'] at hc
    have hrest := ih fun x hx => h x (List.mem_cons_of_mem c hx)
    rw [encode] at hrest ⊢
    rw [List.flatMap_cons, hrest, hc.2]
    rfl

theorem mem_percent {c x : Char} (h : x ∈ percent c) : isHostChar x = true := by
  have hdigit : ∀ n < 16, isHostChar (Bytes.hexDigit n).toUpper = true := by decide
  obtain ⟨b, -, hx⟩ := List.mem_flatMap.mp h
  have hb := b.toNat_lt
  simp only [List.mem_cons, List.not_mem_nil, or_false] at hx
  rcases hx with rfl | rfl | rfl
  · decide
  · exact hdigit _ (by omega)
  · exact hdigit _ (by omega)

/-- What is left of a host once it is encoded holds such characters only. -/
theorem mem_encode {cs : List Char} (h : ∀ c ∈ cs, c ∉ forbidden) :
    ∀ x ∈ encode mustEncode cs, isHostChar x = true := by
  intro x hx
  obtain ⟨c, hc, hx⟩ := List.mem_flatMap.mp hx
  split at hx
  · exact mem_percent hx
  · next hmust =>
    rw [List.mem_singleton.mp hx]
    simpa [isHostChar, h c hc] using hmust

/-! ## Texts of hosts -/

/-- A text that is read as a host, and nothing of it as anything else. -/
structure IsHostText (text : List Char) (h : Host) : Prop where
  ne_nil : text ≠ []
  ordinary : ∀ c ∈ text, isOrdinary c = true
  length : ∀ rest, hostLength .plain false (text ++ ':' :: rest) = text.length
  host : plainHost text = .ok h

theorem hostLength_append {inBrackets : Bool} {cs : List Char} (rest : List Char)
    (h : ∀ c ∈ cs, c ≠ '/' ∧ c ≠ '[' ∧ c ≠ ']' ∧ (c = ':' → inBrackets = true)) :
    hostLength .plain inBrackets (cs ++ rest) = cs.length + hostLength .plain inBrackets rest := by
  induction cs with
  | nil => rw [List.nil_append, List.length_nil, Nat.zero_add]
  | cons c cs ih =>
    obtain ⟨hslash, hopen, hclose, hcolon⟩ := h c List.mem_cons_self
    have hrest := ih fun x hx => h x (List.mem_cons_of_mem c hx)
    have hgo : ¬(isSlash .plain c = true ∨ (c = ':' ∧ (!inBrackets) = true)) := by
      simpa [isSlash, hslash] using hcolon
    rw [List.cons_append, hostLength, if_neg hgo, if_neg hopen, if_neg hclose, hrest,
      List.length_cons]
    omega

theorem isHostText_name {cs : List Char} (hne : cs ≠ []) (h : ∀ c ∈ cs, isHostChar c = true) :
    IsHostText cs (.name (String.ofList cs)) where
  ne_nil := hne
  ordinary c hc := isOrdinary_of_isHostChar (h c hc)
  length rest := by
    rw [hostLength_append]
    · simp [hostLength]
    · intro c hc
      refine ⟨?_, ?_, ?_, fun hcolon => absurd hcolon ?_⟩
      all_goals exact ne_of_isHostChar (h c hc) (by decide)
  host := by
    have hopen : cs.head? ≠ some '[' := fun heq =>
      ne_of_isHostChar (h '[' (List.mem_of_head? heq)) (by decide) rfl
    have hforbidden : ¬(cs.any forbidden.contains = true) := by
      intro hany
      obtain ⟨c, hc, hbad⟩ := List.any_eq_true.mp hany
      have hgood := h c hc
      rw [isHostChar, hbad] at hgood
      cases hgood
    rw [plainHost, if_neg hopen, if_neg hforbidden, encode_eq_self h]

theorem isHostText_bracketed (ip : Ipv6) :
    IsHostText ('[' :: ip.display.toList ++ [']']) (.ip (.v6 ip)) where
  ne_nil := List.cons_ne_nil _ _
  ordinary := by
    have hordinary : ∀ c ∈ '[' :: ']' :: addressChars, isOrdinary c = true :=
      List.all_eq_true.mp (by decide)
    intro c hc
    apply hordinary
    simp only [List.cons_append, List.mem_cons, List.mem_append, List.not_mem_nil, or_false] at hc ⊢
    rcases hc with hc | hc | hc
    · exact Or.inl hc
    · exact Or.inr (Or.inr (ip.mem_display c hc))
    · exact Or.inr (Or.inl hc)
  length rest := by
    have hinner : ∀ c ∈ addressChars, c ≠ '/' ∧ c ≠ '[' ∧ c ≠ ']' ∧ (c = ':' → true = true) := by
      intro c hc
      refine ⟨?_, ?_, ?_, fun _ => rfl⟩
      all_goals exact ne_of_mem_of_not_mem hc (by decide)
    have hbehind : hostLength .plain true (']' :: ':' :: rest) = 1 := by
      simp [hostLength, isSlash]
    have hlength := hostLength_append (']' :: ':' :: rest)
      fun c hc => hinner c (ip.mem_display c hc)
    rw [hbehind] at hlength
    simp [hostLength, isSlash, hlength]
  host := by
    have hopen : ('[' :: ip.display.toList ++ [']']).head? = some '[' := rfl
    have hlast : ('[' :: ip.display.toList ++ [']']).getLast? = some ']' := List.getLast?_concat ..
    have hinner : (('[' :: ip.display.toList ++ [']']).drop 1).dropLast = ip.display.toList :=
      List.dropLast_concat
    rw [plainHost, if_pos hopen, bracketed?, if_pos hlast, hinner, ip.ofChars?_display]

/-! ## The parts of an address -/

theorem tidy_eq_self {cs : List Char} (h : ∀ c ∈ cs, isBlank c = false) : tidy cs = cs := by
  have hdrop : ∀ ds : List Char, (∀ c ∈ ds, isBlank c = false) → ds.dropWhile isBlank = ds := by
    intro ds hds
    cases ds with
    | nil => rfl
    | cons d ds => rw [List.dropWhile_cons_of_neg (by simp [hds d List.mem_cons_self])]
  have hbreak : ∀ c ∈ cs, (!isBreak c) = true := by
    intro c hc
    have hblank := h c hc
    by_contra hbreak
    simp only [Bool.not_eq_true, Bool.not_eq_false', isBreak, decide_eq_true_eq] at hbreak
    rcases hbreak with rfl | rfl | rfl
    all_goals exact absurd hblank (by decide)
  rw [tidy, hdrop cs h, hdrop cs.reverse (by simpa using h), List.reverse_reverse,
    List.filter_eq_self.mpr hbreak]

theorem userInfo_none {cs : List Char} (h : '@' ∉ cs) (m : Manner) (followed : Bool) :
    userInfo m followed cs = .ok (false, cs) := by
  have hfront : ∀ c ∈ (cs.takeWhile (!isSlash m ·)).reverse, (decide (c ≠ '@')) = true := by
    intro c hc
    refine decide_eq_true fun heq => h ?_
    rw [List.mem_reverse] at hc
    exact heq ▸ (List.takeWhile_prefix _).subset hc
  have hnone : uptoLast '@' (cs.takeWhile (!isSlash m ·)) = 0 := by
    rw [uptoLast, List.takeWhile_eq_self_iff.mpr hfront, List.length_reverse, Nat.sub_self]
  rw [userInfo, hnone]
  rfl

/-- The port stands in digits, and the path behind it is empty or a slash. -/
theorem portOf_toDigits (port : UInt16) {path : List Char} (h : path = [] ∨ path = ['/']) :
    portOf (':' :: (Nat.toDigits 10 port.toNat ++ path)) = .ok (some port, path) := by
  have hdigits : (Nat.toDigits 10 port.toNat ++ path).takeWhile Char.isDigit =
      Nat.toDigits 10 port.toNat := by
    rw [List.takeWhile_append_of_pos
      fun c hc => Nat.isDigit_of_mem_toDigits (by decide) (by decide) hc]
    rcases h with rfl | rfl
    · exact List.append_nil _
    · exact List.append_nil _
  have hne : ¬((Nat.toDigits 10 port.toNat).isEmpty = true) := by simp [Nat.toDigits_ne_nil]
  rw [portOf]
  simp only [hdigits, List.drop_left, decimalBelow?_toDigits port.toNat_lt, UInt16.ofNat_toNat]
  rcases h with rfl | rfl
  · simp [hne]
  · simp [hne]

theorem pathBehind_self {path : List Char} (h : path = [] ∨ path = ['/']) :
    pathBehind .plain path = path := by
  rcases h with rfl | rfl
  · rfl
  · rfl

theorem ordinary_behind (port : UInt16) {path : List Char} (h : path = [] ∨ path = ['/']) :
    ∀ c ∈ ':' :: (Nat.toDigits 10 port.toNat ++ path), isOrdinary c = true := by
  have hordinary : ∀ c ∈ addressChars, isOrdinary c = true := List.all_eq_true.mp (by decide)
  refine List.forall_mem_cons.mpr ⟨by decide, List.forall_mem_append.mpr ⟨fun c hc => ?_, ?_⟩⟩
  · exact hordinary c (mem_addressChars_of_mem_toDigits (by decide) (by decide) c hc)
  · rcases h with rfl | rfl
    · simp
    · exact List.all_eq_true.mp (by decide)

/-- An authority of a host and a port. -/
theorem authority_of_isHostText {text : List Char} {host : Host} (ht : IsHostText text host)
    (port : UInt16) {path : List Char} (hpath : path = [] ∨ path = ['/']) (followed : Bool) :
    authority .plain followed (text ++ ':' :: (Nat.toDigits 10 port.toNat ++ path)) =
      .ok ⟨false, some host, some port, path⟩ := by
  have huser : '@' ∉ text ++ ':' :: (Nat.toDigits 10 port.toNat ++ path) := fun hat =>
    absurd (List.forall_mem_append.mpr ⟨ht.ordinary, ordinary_behind port hpath⟩ '@' hat) (by decide)
  have hempty : text.isEmpty = false := by simp [ht.ne_nil]
  rw [authority, userInfo_none huser]
  simp only [bind, Except.bind, pure, Except.pure, ht.length, List.take_left, List.drop_left,
    hempty, ht.host, portOf_toDigits port hpath, Bool.false_eq_true, false_and, if_false, if_true]

/-- An address of a scheme of its own kind, a host, a port and perhaps a slash. -/
theorem parse_of_isHostText {scheme : String} {text : List Char} {host : Host}
    (hmanner : manner scheme = .plain)
    (hscheme : ∀ rest, scheme? (scheme.toList ++ ':' :: rest) = some (scheme, rest))
    (hordinary : ∀ c ∈ scheme.toList, isOrdinary c = true) (ht : IsHostText text host)
    (port : UInt16) {path : List Char} (hpath : path = [] ∨ path = ['/']) :
    parse (String.ofList (scheme.toList ++ ':' :: '/' :: '/' ::
      (text ++ ':' :: (Nat.toDigits 10 port.toNat ++ path)))) =
      .ok ⟨scheme, false, some host, some port, String.ofList path, false, false⟩ := by
  have hbehind : ∀ c ∈ '/' :: '/' :: (text ++ ':' :: (Nat.toDigits 10 port.toNat ++ path)),
      isOrdinary c = true := by
    refine List.forall_mem_cons.mpr ⟨by decide, List.forall_mem_cons.mpr ⟨by decide, ?_⟩⟩
    exact List.forall_mem_append.mpr ⟨ht.ordinary, ordinary_behind port hpath⟩
  have hvisible : ∀ c ∈ scheme.toList ++ ':' :: '/' :: '/' ::
      (text ++ ':' :: (Nat.toDigits 10 port.toNat ++ path)), isBlank c = false := by
    intro c hc
    rcases List.mem_append.mp hc with hc | hc
    · exact (isOrdinary_iff.mp (hordinary c hc)).1
    · rcases List.mem_cons.mp hc with rfl | hc
      · decide
      · exact (isOrdinary_iff.mp (hbehind c hc)).1
  have hmiddle : ('/' :: '/' :: (text ++ ':' :: (Nat.toDigits 10 port.toNat ++ path))).takeWhile
      (fun c => c ≠ '?' ∧ c ≠ '#') =
        '/' :: '/' :: (text ++ ':' :: (Nat.toDigits 10 port.toNat ++ path)) := by
    refine List.takeWhile_eq_self_iff.mpr fun c hc => ?_
    obtain ⟨-, hquery, hfragment, -⟩ := isOrdinary_iff.mp (hbehind c hc)
    exact decide_eq_true ⟨hquery, hfragment⟩
  rw [parse, String.toList_ofList, tidy_eq_self hvisible, hscheme]
  simp only [hmiddle, List.drop_length, hmanner, middle, behindAuthority,
    authority_of_isHostText ht port hpath, pathBehind_self hpath, bind, Except.bind, pure,
    Except.pure]
  rfl

/-! ## Where a host comes from -/

theorem plainHost_cases {text : List Char} {host : Host} (h : plainHost text = .ok host) :
    (∃ ip, host = .ip (.v6 ip)) ∨
      ∃ cs, host = .name (String.ofList cs) ∧ ∀ c ∈ cs, isHostChar c = true := by
  unfold plainHost at h
  split at h
  · refine Or.inl ?_
    unfold bracketed? at h
    split at h
    · split at h
      · next ip _ =>
        cases h
        exact ⟨ip, rfl⟩
      · cases h
    · cases h
  · refine Or.inr ?_
    split at h
    · cases h
    · next hforbidden =>
      cases h
      refine ⟨encode mustEncode text, rfl, mem_encode fun c hc hbad => hforbidden ?_⟩
      exact List.any_eq_true.mpr ⟨c, hc, List.contains_iff_mem.mpr hbad⟩

theorem plainHost_of_authority {followed : Bool} {cs : List Char} {a : Authority} {host : Host}
    (h : authority .plain followed cs = .ok a) (hhost : a.host = some host) :
    ∃ text, plainHost text = .ok host := by
  unfold authority at h
  obtain ⟨⟨user, cs⟩, -, h⟩ := bind_eq_ok.mp h
  dsimp only at h
  split at h
  · cases h
  · obtain ⟨read, hread, h⟩ := bind_eq_ok.mp h
    obtain ⟨⟨port, rest⟩, -, h⟩ := bind_eq_ok.mp h
    dsimp only at h
    split at h
    · cases h
    · cases h
      dsimp only at hhost
      split at hhost
      · cases hhost
      · cases hhost
        exact ⟨_, hread⟩

theorem plainHost_of_parse {s : String} {u : Uri} {host : Host} (h : parse s = .ok u)
    (hmanner : manner u.scheme = .plain) (hhost : u.host = some host) :
    ∃ text, plainHost text = .ok host := by
  unfold parse at h
  split at h
  · cases h
  · next scheme cs _ =>
    obtain ⟨p, hmiddle, h⟩ := bind_eq_ok.mp h
    cases h
    dsimp only at hmanner hhost
    rw [hmanner] at hmiddle
    unfold middle at hmiddle
    split at hmiddle
    · next heq => cases heq
    · next heq => cases heq
    · obtain ⟨a, ha, hmiddle⟩ := bind_eq_ok.mp hmiddle
      cases hmiddle
      exact plainHost_of_authority ha hhost
    · cases hmiddle
      cases hhost
    · cases hmiddle
      cases hhost

end Uri

namespace Endpoint

/-! ## Endpoints -/

theorem scheme?_scheme (tls : Bool) (rest : List Char) :
    Uri.scheme? ((schemeFor tls).toList ++ ':' :: rest) = some (schemeFor tls, rest) := by
  cases tls with
  | false => rfl
  | true => rfl

theorem manner_scheme (tls : Bool) : Uri.manner (schemeFor tls) = .plain := by
  cases tls with
  | false => decide
  | true => decide

theorem ordinary_scheme (tls : Bool) : ∀ c ∈ (schemeFor tls).toList, Uri.isOrdinary c = true := by
  cases tls with
  | false => exact List.all_eq_true.mp (by decide)
  | true => exact List.all_eq_true.mp (by decide)

/-- The checks that follow once the scheme is known. -/
def checked (tls : Bool) (u : Uri) : Except EndpointError Endpoint := do
  if u.hasUserInfo then throw .unexpectedUserInfo
  if u.hasQuery then throw .unexpectedQuery
  if u.hasFragment then throw .unexpectedFragment
  if u.path ≠ "" ∧ u.path ≠ "/" then throw (.unexpectedPath u.path)
  match hostText u.host with
  | some host => return ⟨host, portOr tls (u.port.getD 0), tls⟩
  | none => throw .missingHost

theorem ofUri_eq (u : Uri) :
    ofUri u = if u.scheme = plainScheme then checked false u
      else if u.scheme = tlsScheme then checked true u
      else .error (.unsupportedScheme u.scheme) := rfl

theorem checked_eq_ok_iff {tls : Bool} {u : Uri} {e : Endpoint} :
    checked tls u = .ok e ↔ u.hasUserInfo = false ∧ u.hasQuery = false ∧ u.hasFragment = false ∧
      (u.path = "" ∨ u.path = "/") ∧
      ∃ host, hostText u.host = some host ∧ e = ⟨host, portOr tls (u.port.getD 0), tls⟩ := by
  obtain ⟨scheme, user, uhost, uport, path, query, fragment⟩ := u
  simp only [checked, bind, Except.bind, pure, Except.pure, throw, throwThe, MonadExceptOf.throw]
  cases user with
  | true => simp
  | false =>
  cases query with
  | true => simp
  | false =>
  cases fragment with
  | true => simp
  | false =>
  by_cases hpath : path = "" ∨ path = "/"
  · have hnot : ¬(path ≠ "" ∧ path ≠ "/") := by tauto
    cases hhost : hostText uhost with
    | none => simp [hnot]
    | some host => simp [hnot, hpath, eq_comm]
  · have hnot : path ≠ "" ∧ path ≠ "/" := by tauto
    simp [hnot]

/-- What an address has to be like to name an endpoint, and which one it names. -/
theorem ofUri_eq_ok_iff {u : Uri} {e : Endpoint} :
    ofUri u = .ok e ↔ ∃ tls, u.scheme = schemeFor tls ∧ checked tls u = .ok e := by
  rw [ofUri_eq]
  constructor
  · intro h
    split at h
    · next hplain => exact ⟨false, hplain, h⟩
    · split at h
      · next htls => exact ⟨true, htls, h⟩
      · cases h
  · rintro ⟨tls, hscheme, h⟩
    cases tls with
    | false =>
      have hplain : u.scheme = plainScheme := hscheme
      rwa [if_pos hplain]
    | true =>
      have htls : u.scheme = tlsScheme := hscheme
      have hdiffer : tlsScheme ≠ plainScheme := by decide
      rwa [if_neg (htls ▸ hdiffer), if_pos htls]

/-- An address of a host and a port, with or without a slash at the end. -/
theorem parse_of_isHostText {text : List Char} {host : Uri.Host} {name : String}
    (ht : Uri.IsHostText text host) (hname : hostText (some host) = some name) (tls : Bool)
    (port : UInt16) {path : List Char} (hpath : path = [] ∨ path = ['/']) :
    parse (String.ofList ((schemeFor tls).toList ++ ':' :: '/' :: '/' ::
      (text ++ ':' :: (Nat.toDigits 10 port.toNat ++ path)))) =
      .ok ⟨name, portOr tls port, tls⟩ := by
  have hslash : String.ofList path = "" ∨ String.ofList path = "/" := by
    rcases hpath with rfl | rfl
    · exact Or.inl rfl
    · exact Or.inr rfl
  rw [parse, Uri.parse_of_isHostText (manner_scheme tls) (scheme?_scheme tls) (ordinary_scheme tls)
    ht port hpath]
  exact ofUri_eq_ok_iff.mpr
    ⟨tls, rfl, checked_eq_ok_iff.mpr ⟨rfl, rfl, rfl, hslash, name, hname, rfl⟩⟩

/-! ## Hosts of endpoints -/

/-- The hosts that endpoints have: the canonical text of a long address, or a text of characters
that stand for themselves. -/
inductive HasHost : String → Prop
  | ip (ip : Ipv6) : HasHost ip.display
  | name {cs : List Char} (hne : cs ≠ []) (h : ∀ c ∈ cs, Uri.isHostChar c = true) :
    HasHost (String.ofList cs)

theorem portOr_ne_zero (tls : Bool) (port : UInt16) : portOr tls port ≠ 0 := by
  rw [portOr]
  split
  · cases tls with
    | false => decide
    | true => decide
  · assumption

theorem hasHost_of_parse {s : String} {e : Endpoint} (h : parse s = .ok e) :
    HasHost e.host ∧ e.port ≠ 0 := by
  unfold parse at h
  split at h
  · next u hu =>
    obtain ⟨tls, hscheme, hchecked⟩ := ofUri_eq_ok_iff.mp h
    obtain ⟨-, -, -, -, name, hname, rfl⟩ := checked_eq_ok_iff.mp hchecked
    refine ⟨?_, portOr_ne_zero tls _⟩
    cases hhost : u.host with
    | none => rw [hhost] at hname; cases hname
    | some host =>
      rw [hhost] at hname
      have hmanner : Uri.manner u.scheme = .plain := by rw [hscheme, manner_scheme]
      obtain ⟨text, hplain⟩ := Uri.plainHost_of_parse hu hmanner hhost
      rcases Uri.plainHost_cases hplain with ⟨ip, rfl⟩ | ⟨cs, rfl, hcs⟩
      · cases hname
        exact .ip ip
      · rw [hostText] at hname
        split at hname
        · cases hname
        · next hne =>
          cases hname
          refine .name ?_ hcs
          rintro rfl
          exact hne rfl
  · cases h

/-- A host as it stands in an address. -/
def written (host : String) : List Char :=
  if host.toList.contains ':' then '[' :: host.toList ++ [']'] else host.toList

theorem toList_display (e : Endpoint) :
    e.display.toList = (schemeFor e.tls).toList ++ ':' :: '/' :: '/' ::
      (written e.host ++ ':' :: (Nat.toDigits 10 e.port.toNat ++ ['/'])) := by
  have hopen : "://[".toList = [':', '/', '/', '['] := by decide
  have hclose : "]:".toList = [']', ':'] := by decide
  have hstart : "://".toList = [':', '/', '/'] := by decide
  have hcolon : ":".toList = [':'] := by decide
  have hslash : "/".toList = ['/'] := by decide
  have htext : ∀ s : String, toString s = s := fun _ => rfl
  rw [display, written, scheme]
  split
  · simp only [String.toList_append, hopen, hclose, hslash, htext, Socket.toList_port,
      List.append_assoc, List.cons_append, List.nil_append]
  · simp only [String.toList_append, hstart, hcolon, hslash, htext, Socket.toList_port,
      List.append_assoc, List.cons_append, List.nil_append]

theorem HasHost.written {host : String} (h : HasHost host) :
    ∃ uhost, Uri.IsHostText (written host) uhost ∧ hostText (some uhost) = some host := by
  cases h with
  | ip ip =>
    rw [Endpoint.written, if_pos (List.contains_iff_mem.mpr ip.colon_mem_display)]
    exact ⟨_, Uri.isHostText_bracketed ip, rfl⟩
  | @name cs hne h =>
    have hempty : (String.ofList cs).isEmpty = false := by simp [hne]
    rw [Endpoint.written, String.toList_ofList,
      if_neg fun hmem => Uri.colon_not_mem h (List.contains_iff_mem.mp hmem)]
    refine ⟨_, Uri.isHostText_name hne h, ?_⟩
    rw [hostText, hempty]
    rfl

/-- The canonical address is read as the endpoint it was written for. -/
theorem parse_display_of_hasHost {e : Endpoint} (h : HasHost e.host) (hport : e.port ≠ 0) :
    parse e.display = .ok e := by
  obtain ⟨uhost, ht, hname⟩ := h.written
  have hparse := parse_of_isHostText ht hname e.tls e.port (Or.inr rfl)
  rwa [← toList_display, String.ofList_toList, portOr, if_neg hport] at hparse

theorem display_of_mem {e : Endpoint} (h : ':' ∈ e.host.toList) :
    e.display = s!"{e.scheme}://[{e.host}]:{e.port}/" := by
  rw [display, if_pos (List.contains_iff_mem.mpr h)]

theorem display_of_not_mem {e : Endpoint} (h : ':' ∉ e.host.toList) :
    e.display = s!"{e.scheme}://{e.host}:{e.port}/" := by
  rw [display, if_neg fun hmem => h (List.contains_iff_mem.mp hmem)]

theorem HasHost.cases_colon {host : String} (h : HasHost host) :
    (∃ ip : Ipv6, host = ip.display ∧ ':' ∈ host.toList) ∨
      (Ipv6.ofChars? host.toList = none ∧ ':' ∉ host.toList) := by
  cases h with
  | ip ip => exact Or.inl ⟨ip, rfl, ip.colon_mem_display⟩
  | name hne h =>
    refine Or.inr ?_
    rw [String.toList_ofList]
    refine ⟨?_, Uri.colon_not_mem h⟩
    rw [Option.eq_none_iff_forall_ne_some]
    exact fun ip hip => Uri.colon_not_mem h (Ipv6.mem_of_ofChars? hip)

/-- Every address that names an endpoint has one canonical form: it names the port, which is not
zero, has brackets around long addresses only, and names that endpoint and no other one. -/
theorem canonical_of_parse {s : String} {e : Endpoint} (h : parse s = .ok e) :
    e.port ≠ 0 ∧
    ((∃ ip : Ipv6, e.host = ip.display ∧ e.display = s!"{e.scheme}://[{e.host}]:{e.port}/") ∨
      (Ipv6.ofChars? e.host.toList = none ∧ e.display = s!"{e.scheme}://{e.host}:{e.port}/")) ∧
    parse e.display = .ok e ∧
    ∀ s' e', parse s' = .ok e' → (e'.display = e.display ↔ e' = e) := by
  obtain ⟨hhost, hport⟩ := hasHost_of_parse h
  have hback := parse_display_of_hasHost hhost hport
  have hform : (∃ ip : Ipv6, e.host = ip.display ∧
        e.display = s!"{e.scheme}://[{e.host}]:{e.port}/") ∨
      (Ipv6.ofChars? e.host.toList = none ∧ e.display = s!"{e.scheme}://{e.host}:{e.port}/") := by
    rcases hhost.cases_colon with ⟨ip, hip, hcolon⟩ | ⟨hnone, hcolon⟩
    · exact Or.inl ⟨ip, hip, display_of_mem hcolon⟩
    · exact Or.inr ⟨hnone, display_of_not_mem hcolon⟩
  refine ⟨hport, hform, hback, ?_⟩
  intro s' e' h'
  obtain ⟨hhost', hport'⟩ := hasHost_of_parse h'
  have hback' := parse_display_of_hasHost hhost' hport'
  constructor
  · intro hsame
    rw [hsame, hback] at hback'
    exact (Except.ok.inj hback').symm
  · rintro rfl
    rfl

/-- A wrapped short address, written out, and the port left to the scheme. -/
theorem wrapped_canonical :
    parse "mortars://:@[0:0:0::FFFF:0102:0304]:00" = .ok ⟨"::ffff:1.2.3.4", 25156, true⟩ ∧
    parse "mortars://[::ffff:1.2.3.4]:25156/" = .ok ⟨"::ffff:1.2.3.4", 25156, true⟩ := by
  have h : parse "mortars://:@[0:0:0::FFFF:0102:0304]:00" = .ok ⟨"::ffff:1.2.3.4", 25156, true⟩ := by
    decide
  exact ⟨h, (canonical_of_parse h).2.2.1⟩

end Endpoint

end Rpc.Net
