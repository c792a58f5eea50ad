import Mathlib.Data.List.TakeWhile
import Rpc.Net.Address
import Rpc.Proofs.Text.Numerals

/-! # Addresses are read back from their texts

The canonical text of an address is read as that address, and the text of a socket as that socket.
A long address has a colon in its text and a short one has none, so neither is taken for the other.
In the text of a long address a double colon stands where a run of zeros was left out and nowhere
else, so it is cut there again.
-/
namespace Rpc.Net

open Text

/-! ## Characters -/

/-- The characters with which addresses are written. -/
def addressChars : List Char :=
  ['0', '1', '2', '3', '4', '5', '6', '7', '8', '9', 'a', 'b', 'c', 'd', 'e', 'f', ':', '.']

theorem digitChar_mem_addressChars : ∀ d < 16, d.digitChar ∈ addressChars := by decide

theorem mem_addressChars_of_mem_toDigits {base n : Nat} (hbase : 1 < base) (hsmall : base ≤ 16) :
    ∀ c ∈ Nat.toDigits base n, c ∈ addressChars := by
  intro c hc
  obtain ⟨d, hd, rfl⟩ := mem_toDigits hbase hc
  exact digitChar_mem_addressChars d (by omega)

theorem not_mem_toDigits {base n : Nat} {x : Char} (hbase : 1 < base) (hsmall : base ≤ 16)
    (hx : ∀ d < 16, d.digitChar ≠ x) : x ∉ Nat.toDigits base n := by
  intro h
  obtain ⟨d, hd, heq⟩ := mem_toDigits hbase h
  exact hx d (by omega) heq.symm

theorem mem_intercalate {separator : Char} {ps : List (List Char)}
    (hseparator : separator ∈ addressChars)
    (h : ∀ p ∈ ps, ∀ c ∈ p, c ∈ addressChars) :
    ∀ c ∈ [separator].intercalate ps, c ∈ addressChars := by
  intro c hc
  rcases eq_or_mem_of_mem_intercalate hc with rfl | ⟨p, hp, hc⟩
  · exact hseparator
  · exact h p hp c hc

/-! ## Addresses of four octets -/

namespace Ipv4

theorem toList_octet (x : UInt8) : (toString x).toList = Nat.toDigits 10 x.toNat := by
  rw [show toString x = toString x.toNat from rfl, Nat.toString_eq_ofList_toDigits,
    String.toList_ofList]

/-- The texts of the four octets. -/
def octets (ip : Ipv4) : List (List Char) :=
  [ip.a, ip.b, ip.c, ip.d].map fun x => Nat.toDigits 10 x.toNat

theorem toList_display (ip : Ipv4) : ip.display.toList = ['.'].intercalate ip.octets := by
  have hdot : (toString ".").toList = ['.'] := by decide
  simp [display, octets, toList_octet, hdot, List.intercalate_cons_cons,
    List.intercalate_singleton]

theorem mem_octets {ip : Ipv4} {p : List Char} (h : p ∈ ip.octets) :
    ∃ n, p = Nat.toDigits 10 n := by
  obtain ⟨x, -, rfl⟩ := List.mem_map.mp h
  exact ⟨x.toNat, rfl⟩

theorem octet?_toDigits (x : UInt8) : octet? (Nat.toDigits 10 x.toNat) = some x := by
  rw [octet?, plainDecimal?_toDigits, Option.filter_some, if_pos (decide_eq_true x.toNat_lt),
    Option.map_some, UInt8.ofNat_toNat]

theorem ofChars?_display (ip : Ipv4) : ofChars? ip.display.toList = some ip := by
  have hpieces : pieces '.' ip.display.toList = ip.octets := by
    rw [toList_display]
    refine pieces_intercalate (List.cons_ne_nil _ _) ?_
    intro p hp
    obtain ⟨n, rfl⟩ := mem_octets hp
    exact not_mem_toDigits (by decide) (by decide) (by decide)
  rw [ofChars?, hpieces]
  simp [octets, octet?_toDigits]

theorem mem_display (ip : Ipv4) : ∀ c ∈ ip.display.toList, c ∈ addressChars := by
  rw [toList_display]
  apply mem_intercalate (by decide)
  intro p hp
  obtain ⟨n, rfl⟩ := mem_octets hp
  exact mem_addressChars_of_mem_toDigits (by decide) (by decide)

theorem display_ne_nil (ip : Ipv4) : ip.display.toList ≠ [] := by
  rw [toList_display]
  simp [octets, List.intercalate_cons_cons, Nat.toDigits_ne_nil]

theorem not_mem_of_octet? {cs : List Char} {x : UInt8} (h : octet? cs = some x) : ':' ∉ cs := by
  intro hc
  simp only [octet?, plainDecimal?, decimal?, Option.map_eq_some_iff,
    Option.filter_eq_some_iff] at h
  obtain ⟨n, ⟨hread, -⟩, -⟩ := h
  split at hread
  · cases hread
  · split at hread
    · cases hread
    · exact absurd (isSome_of_digits? hread ':' hc) (by decide)

/-- A text with a colon is not that of four octets. -/
theorem not_mem_of_ofChars? {cs : List Char} {ip : Ipv4} (h : ofChars? cs = some ip) :
    ':' ∉ cs := by
  intro hmem
  obtain ⟨p, hp, hc⟩ := exists_mem_pieces '.' hmem (by decide)
  unfold ofChars? at h
  split at h
  · next a b c d hpieces =>
    split at h
    · next ha hb hc' hd =>
      rw [hpieces] at hp
      simp only [List.mem_cons, List.not_mem_nil, or_false] at hp
      rcases hp with rfl | rfl | rfl | rfl
      · exact not_mem_of_octet? ha hc
      · exact not_mem_of_octet? hb hc
      · exact not_mem_of_octet? hc' hc
      · exact not_mem_of_octet? hd hc
    · cases h
  · cases h

theorem colon_not_mem_display (ip : Ipv4) : ':' ∉ ip.display.toList :=
  not_mem_of_ofChars? ip.ofChars?_display

end Ipv4

/-! ## Addresses of eight groups -/

namespace Ipv6

/-! ### Groups and colons -/

/-- The texts of some groups. -/
def texts (gs : List UInt16) : List (List Char) := gs.map fun g => Nat.toDigits 16 g.toNat

theorem toList_joined (gs : List UInt16) : (joined gs).toList = [':'].intercalate (texts gs) := by
  have hcolon : ":".toList = [':'] := by decide
  have htexts : (gs.map hexText).map String.toList = texts gs := by
    simp [texts, hexText]
  rw [joined, String.toList_intercalate, hcolon, htexts]

/-- Pieces with something in them and without colons. -/
def Parted (ps : List (List Char)) : Prop := ∀ p ∈ ps, p ≠ [] ∧ ':' ∉ p

theorem parted_texts (gs : List UInt16) : Parted (texts gs) := by
  intro p hp
  obtain ⟨g, -, rfl⟩ := List.mem_map.mp hp
  exact ⟨Nat.toDigits_ne_nil, not_mem_toDigits (by decide) (by decide) (by decide)⟩

theorem Parted.tail {p : List Char} {ps : List (List Char)} (h : Parted (p :: ps)) : Parted ps :=
  fun q hq => h q (List.mem_cons_of_mem p hq)

theorem Parted.head_ne {ps : List (List Char)} (h : Parted ps) (rest : List Char) :
    ps ≠ [] → ([':'].intercalate ps ++ rest).head? ≠ some ':' := by
  intro hne
  cases ps with
  | nil => exact absurd rfl hne
  | cons p ps =>
    obtain ⟨hp, hcolon⟩ := h p List.mem_cons_self
    obtain ⟨c, p, rfl⟩ := List.exists_cons_of_ne_nil hp
    have hhead : ([':'].intercalate ((c :: p) :: ps) ++ rest).head? = some c := by
      cases ps with
      | nil => rw [List.intercalate_singleton]; rfl
      | cons q ps => rw [List.intercalate_cons_cons]; rfl
    rw [hhead]
    intro heq
    cases heq
    exact hcolon List.mem_cons_self

theorem fields_intercalate {ps : List (List Char)} (h : Parted ps) :
    fields ([':'].intercalate ps) = ps := by
  cases ps with
  | nil => rfl
  | cons p ps =>
    have hne : [':'].intercalate (p :: ps) ≠ [] := by
      intro hnil
      obtain ⟨c, p, rfl⟩ := List.exists_cons_of_ne_nil (h p List.mem_cons_self).1
      cases ps with
      | nil => rw [List.intercalate_singleton] at hnil; cases hnil
      | cons q ps => rw [List.intercalate_cons_cons] at hnil; cases hnil
    rw [fields, if_neg (by simpa using hne)]
    exact pieces_intercalate (List.cons_ne_nil p ps) fun q hq => (h q hq).2

/-! ### The double colon -/

theorem cut?_cons {c : Char} {cs : List Char} (h : c = ':' → cs.head? ≠ some ':') :
    cut? (c :: cs) = (cut? cs).map fun x => (c :: x.1, x.2) := by
  rw [cut?.eq_def]
  split
  · next heq => cases heq; exact absurd rfl (h rfl)
  · next heq => cases heq; rfl
  · next heq => cases heq

theorem cut?_append {cs : List Char} (h : ':' ∉ cs) (rest : List Char) :
    cut? (cs ++ rest) = (cut? rest).map fun x => (cs ++ x.1, x.2) := by
  induction cs with
  | nil => simp
  | cons c cs ih =>
    have hne : c ≠ ':' := fun heq => h (heq ▸ List.mem_cons_self)
    rw [List.cons_append, cut?_cons fun heq => absurd heq hne,
      ih fun hc => h (List.mem_cons_of_mem c hc), Option.map_map]
    rfl

/-- Pieces between single colons are passed over. -/
theorem cut?_intercalate_append {ps : List (List Char)} (h : Parted ps) (rest : List Char) :
    cut? ([':'].intercalate ps ++ rest) =
      (cut? rest).map fun x => ([':'].intercalate ps ++ x.1, x.2) := by
  induction ps with
  | nil => simp
  | cons p ps ih =>
    cases ps with
    | nil =>
      rw [List.intercalate_singleton]
      exact cut?_append (h p List.mem_cons_self).2 rest
    | cons q ps =>
      have hhead := h.tail.head_ne rest (List.cons_ne_nil q ps)
      simp only [List.intercalate_cons_cons, List.append_assoc, List.singleton_append]
      rw [cut?_append (h p List.mem_cons_self).2, List.cons_append, cut?_cons fun _ => hhead,
        ih h.tail, Option.map_map, Option.map_map]
      rfl

theorem cut?_intercalate {ps : List (List Char)} (h : Parted ps) :
    cut? ([':'].intercalate ps) = none := by
  have hcut := cut?_intercalate_append h []
  rwa [List.append_nil] at hcut

theorem cut?_double {ps : List (List Char)} (h : Parted ps) (rest : List Char) :
    cut? ([':'].intercalate ps ++ ':' :: ':' :: rest) = some ([':'].intercalate ps, rest) := by
  rw [cut?_intercalate_append h, cut?, Option.map_some, List.append_nil]

/-- Without a colon there is one piece, which is too short for eight groups. -/
theorem mem_of_ofChars? {cs : List Char} {ip : Ipv6} (h : ofChars? cs = some ip) : ':' ∈ cs := by
  by_contra hcolon
  have hcut : cut? cs = none := by
    have hcut := cut?_append hcolon []
    rwa [List.append_nil] at hcut
  rw [ofChars?, hcut] at h
  simp only [pieces_of_not_mem hcolon, groups?] at h
  obtain ⟨gs, hgs, hlength⟩ := Option.bind_eq_some_iff.mp h
  have hshort : gs.length ≤ 2 := by
    split at hgs
    · cases hgs
      simp
    · simp only [List.isEmpty_nil, if_true, Option.map_eq_some_iff] at hgs
      obtain ⟨v4, -, rfl⟩ := hgs
      simp [Ipv4.groups]
  rw [ofGroups?, dif_neg (by omega)] at hlength
  cases hlength

/-! ### Reading groups -/

theorem hexGroup?_text (g : UInt16) : hexGroup? (Nat.toDigits 16 g.toNat) = some g.toNat :=
  hexGroup?_toDigits g.toNat_lt

theorem groups?_texts (gs : List UInt16) : groups? (texts gs) = some gs := by
  induction gs with
  | nil => rfl
  | cons g gs ih =>
    simp only [texts, List.map_cons, groups?, hexGroup?_text]
    rw [← texts, ih, Option.map_some, UInt16.ofNat_toNat]

theorem plainGroups?_texts (gs : List UInt16) : plainGroups? (texts gs) = some gs := by
  induction gs with
  | nil => rfl
  | cons g gs ih =>
    rw [plainGroups?] at ih ⊢
    simp only [texts, List.map_cons, List.mapM_cons, hexGroup?_text]
    rw [← texts, ih]
    simp

theorem ofGroups?_groups (ip : Ipv6) : ofGroups? ip.groups = some ip := by
  rw [ofGroups?, dif_pos ip.length_groups]

/-! ### The longest run of zeros -/

theorem take_zeros (gs : List UInt16) : gs.take (zeros gs) = List.replicate (zeros gs) 0 := by
  induction gs with
  | nil => rfl
  | cons g gs ih =>
    by_cases hg : g = 0
    · rw [zeros] at ih ⊢
      rw [List.takeWhile_cons_of_pos (by simpa using hg), List.length_cons, List.take_succ_cons,
        ih, List.replicate_succ, hg]
    · rw [zeros, List.takeWhile_cons_of_neg (by simpa using hg)]
      rfl

/-- The groups in front of the run, the run, and the groups behind it. -/
theorem around_longestRun (gs : List UInt16) :
    gs.take (longestRun gs).1 ++ List.replicate (longestRun gs).2 0 ++
      gs.drop ((longestRun gs).1 + (longestRun gs).2) = gs := by
  induction gs with
  | nil => rfl
  | cons g gs ih =>
    rw [longestRun]
    split
    · rw [List.take_zero, List.nil_append, Nat.zero_add, ← take_zeros, List.take_append_drop]
    · simp only [List.take_succ_cons, List.cons_append, Nat.add_right_comm _ 1, List.drop_succ_cons]
      rw [ih]

/-! ### The whole text -/

/-- Groups in front of a double colon and pieces behind it that stand for groups. -/
theorem ofChars?_double {ip : Ipv6} {back : List UInt16} {ps : List (List Char)}
    (front : List UInt16) (run : Nat) (hps : Parted ps) (hback : groups? ps = some back)
    (hrun : 0 < run) (hgroups : front ++ List.replicate run 0 ++ back = ip.groups) :
    ofChars? ([':'].intercalate (texts front) ++ ':' :: ':' :: [':'].intercalate ps) = some ip := by
  have hlength := congrArg List.length hgroups
  rw [List.length_append, List.length_append, List.length_replicate, ip.length_groups] at hlength
  have hgap : 8 - front.length - back.length = run := by omega
  rw [ofChars?, cut?_double (parted_texts front)]
  simp only [fields_intercalate (parted_texts front), fields_intercalate hps,
    plainGroups?_texts, hback]
  rw [if_pos (by omega), hgap, hgroups, ofGroups?_groups]

theorem ofChars?_joined {ip : Ipv6} {gs : List UInt16} (h : gs = ip.groups) :
    ofChars? ([':'].intercalate (texts gs)) = some ip := by
  have hne : texts gs ≠ [] := by
    intro hnil
    have hlength := ip.length_groups
    rw [← h, List.map_eq_nil_iff.mp hnil] at hlength
    cases hlength
  have hpieces : pieces ':' ([':'].intercalate (texts gs)) = texts gs :=
    pieces_intercalate hne fun p hp => (parted_texts gs p hp).2
  rw [ofChars?, cut?_intercalate (parted_texts gs), hpieces, groups?_texts, h]
  exact ofGroups?_groups ip

theorem hexGroup?_octets (ip : Ipv4) : hexGroup? ip.display.toList = none := by
  have hdot : '.' ∈ ip.display.toList := by
    rw [Ipv4.toList_display]
    simp [Ipv4.octets, List.intercalate_cons_cons]
  rw [hexGroup?]
  split
  · rfl
  · rw [Option.eq_none_iff_forall_ne_some]
    intro n hn
    exact absurd (isSome_of_digits? hn '.' hdot) (by decide)

theorem groups?_octets (ip : Ipv4) :
    groups? [['f', 'f', 'f', 'f'], ip.display.toList] = some (0xffff :: ip.groups) := by
  have hhex : hexGroup? ['f', 'f', 'f', 'f'] = some 0xffff := by decide
  simp only [groups?, hhex, hexGroup?_octets, List.isEmpty_nil, if_true, Ipv4.ofChars?_display,
    Option.map_some]
  rfl

/-- Two groups as four octets. -/
theorem groups_octets (g h : UInt16) :
    (Ipv4.mk (g / 256).toUInt8 g.toUInt8 (h / 256).toUInt8 h.toUInt8).groups = [g, h] := by
  have hgroup : ∀ x : UInt16, (x / 256).toUInt8.toUInt16 * 256 + x.toUInt8.toUInt16 = x := by
    intro x
    have hlt := x.toNat_lt
    rw [← UInt16.toNat_inj]
    simp only [UInt16.toNat_add, UInt16.toNat_mul, UInt8.toNat_toUInt16, UInt16.toNat_toUInt8,
      UInt16.toNat_div, UInt16.reduceToNat]
    omega
  rw [Ipv4.groups, hgroup g, hgroup h]

theorem parted_octets (ip : Ipv4) : Parted [['f', 'f', 'f', 'f'], ip.display.toList] := by
  intro p hp
  rcases List.mem_cons.mp hp with rfl | hp
  · decide
  · rw [List.mem_singleton.mp hp]
    exact ⟨ip.display_ne_nil, ip.colon_not_mem_display⟩

/-- The three ways in which the text of an address is put together. -/
theorem toList_display (ip : Ipv6) :
    (∃ g h, ip.groups = [0, 0, 0, 0, 0, 0xffff, g, h] ∧
      ip.display.toList = ':' :: ':' :: [':'].intercalate [['f', 'f', 'f', 'f'],
        (Ipv4.mk (g / 256).toUInt8 g.toUInt8 (h / 256).toUInt8 h.toUInt8).display.toList]) ∨
    (∃ front run back, 0 < run ∧ front ++ List.replicate run 0 ++ back = ip.groups ∧
      ip.display.toList =
        [':'].intercalate (texts front) ++ ':' :: ':' :: [':'].intercalate (texts back)) ∨
    ip.display.toList = [':'].intercalate (texts ip.groups) := by
  unfold display
  split
  · next g h heq =>
    refine Or.inl ⟨g, h, heq, ?_⟩
    have hwrap : "::ffff:".toList = [':', ':', 'f', 'f', 'f', 'f', ':'] := by decide
    rw [String.toList_append, hwrap, List.intercalate_cons_cons, List.intercalate_singleton]
    rfl
  · refine Or.inr ?_
    dsimp only
    split
    · next hrun =>
      refine Or.inl ⟨_, _, _, Nat.lt_of_succ_lt hrun, around_longestRun ip.groups, ?_⟩
      have hdouble : "::".toList = [':', ':'] := by decide
      rw [String.toList_append, String.toList_append, hdouble, toList_joined, toList_joined,
        List.append_assoc]
      rfl
    · exact Or.inr (toList_joined ip.groups)

theorem ofChars?_display (ip : Ipv6) : ofChars? ip.display.toList = some ip := by
  rcases toList_display ip with ⟨g, h, hgroups, htext⟩ |
    ⟨front, run, back, hrun, hgroups, htext⟩ | htext
  · have hback := groups?_octets ⟨(g / 256).toUInt8, g.toUInt8, (h / 256).toUInt8, h.toUInt8⟩
    rw [groups_octets] at hback
    rw [htext]
    exact ofChars?_double [] 5 (parted_octets _) hback (by decide) hgroups.symm
  · rw [htext]
    exact ofChars?_double front run (parted_texts back) (groups?_texts back) hrun hgroups
  · rw [htext]
    exact ofChars?_joined rfl

theorem colon_mem_display (ip : Ipv6) : ':' ∈ ip.display.toList :=
  mem_of_ofChars? ip.ofChars?_display

/-- No address is taken for a socket, whose text has one colon or brackets. -/
theorem two_le_count_display (ip : Ipv6) : 2 ≤ ip.display.toList.count ':' := by
  rcases toList_display ip with ⟨g, h, -, htext⟩ | ⟨front, run, back, -, -, htext⟩ | htext
  · rw [htext, List.count_cons_self, List.count_cons_self]
    omega
  · rw [htext, List.count_append, List.count_cons_self, List.count_cons_self]
    omega
  · have hlength : (texts ip.groups).length = 8 := by
      rw [texts, List.length_map, ip.length_groups]
    have hne : texts ip.groups ≠ [] := fun hnil => by rw [hnil] at hlength; cases hlength
    have hpieces := length_pieces ':' ip.display.toList
    rw [htext, pieces_intercalate hne fun p hp => (parted_texts ip.groups p hp).2] at hpieces
    rw [htext]
    omega

theorem mem_texts {gs : List UInt16} : ∀ p ∈ texts gs, ∀ c ∈ p, c ∈ addressChars := by
  intro p hp
  obtain ⟨g, -, rfl⟩ := List.mem_map.mp hp
  exact mem_addressChars_of_mem_toDigits (by decide) (by decide)

theorem mem_display (ip : Ipv6) : ∀ c ∈ ip.display.toList, c ∈ addressChars := by
  have hcolon : ':' ∈ addressChars := by decide
  rcases toList_display ip with ⟨g, h, -, htext⟩ | ⟨front, run, back, -, -, htext⟩ | htext
  · rw [htext]
    refine List.forall_mem_cons.mpr ⟨hcolon, List.forall_mem_cons.mpr ⟨hcolon, ?_⟩⟩
    apply mem_intercalate hcolon
    intro p hp
    rcases List.mem_cons.mp hp with rfl | hp
    · have hletter : 'f' ∈ addressChars := by decide
      simpa using hletter
    · rw [List.mem_singleton.mp hp]
      exact Ipv4.mem_display _
  · rw [htext]
    refine List.forall_mem_append.mpr ⟨mem_intercalate hcolon mem_texts, ?_⟩
    refine List.forall_mem_cons.mpr ⟨hcolon, List.forall_mem_cons.mpr ⟨hcolon, ?_⟩⟩
    exact mem_intercalate hcolon mem_texts
  · rw [htext]
    exact mem_intercalate hcolon mem_texts

end Ipv6

/-! ## Addresses of either kind -/

namespace Ip

theorem ofText?_display (ip : Ip) : ofText? ip.display = some ip := by
  rw [ofText?, ofChars?]
  cases ip with
  | v4 ip => rw [display, ip.ofChars?_display]
  | v6 ip =>
    have hshort : Ipv4.ofChars? ip.display.toList = none := by
      rw [Option.eq_none_iff_forall_ne_some]
      exact fun v4 hv4 => Ipv4.not_mem_of_ofChars? hv4 ip.colon_mem_display
    rw [display, hshort, ip.ofChars?_display, Option.map_some]

theorem mem_display (ip : Ip) : ∀ c ∈ ip.display.toList, c ∈ addressChars := by
  cases ip with
  | v4 ip => exact ip.mem_display
  | v6 ip => exact ip.mem_display

/-- No character that is not for addresses is in the text of one. -/
theorem not_mem_display (ip : Ip) {c : Char} (h : c ∉ addressChars) : c ∉ ip.display.toList :=
  fun hc => h (ip.mem_display c hc)

end Ip

/-! ## Sockets -/

namespace Socket

theorem toList_port (port : UInt16) : (toString port).toList = Nat.toDigits 10 port.toNat := by
  rw [show toString port = toString port.toNat from rfl, Nat.toString_eq_ofList_toDigits,
    String.toList_ofList]

theorem port?_toDigits (port : UInt16) : port? (Nat.toDigits 10 port.toNat) = some port := by
  rw [port?, decimalBelow?_toDigits port.toNat_lt, Option.map_some, UInt16.ofNat_toNat]

theorem toList_display_v4 (ip : Ipv4) (port : UInt16) (scope : UInt32) :
    (Socket.mk (.v4 ip) port scope).display.toList =
      ip.display.toList ++ ':' :: Nat.toDigits 10 port.toNat := by
  have hcolon : (toString ":").toList = [':'] := by decide
  simp only [display, String.toList_append, toList_port, hcolon, List.append_assoc]
  rfl

theorem toList_display_v6 (ip : Ipv6) (port : UInt16) :
    (Socket.mk (.v6 ip) port 0).display.toList =
      '[' :: ip.display.toList ++ ']' :: ':' :: Nat.toDigits 10 port.toNat := by
  have hopen : (toString "[").toList = ['['] := by decide
  have hclose : (toString "]:").toList = [']', ':'] := by decide
  simp only [display, if_true, String.toList_append, toList_port, hopen, hclose,
    List.append_assoc]
  rfl

theorem ofText?_display_v4 (ip : Ipv4) (port : UInt16) :
    ofText? (Socket.mk (.v4 ip) port 0).display = some ⟨.v4 ip, port, 0⟩ := by
  have hopen : '[' ∉ ip.display.toList := Ip.not_mem_display (.v4 ip) (by decide)
  have hpieces : pieces ':' (ip.display.toList ++ ':' :: Nat.toDigits 10 port.toNat) =
      [ip.display.toList, Nat.toDigits 10 port.toNat] := by
    rw [pieces_append ip.colon_not_mem_display, pieces_of_not_mem]
    exact not_mem_toDigits (by decide) (by decide) (by decide)
  rw [ofText?, toList_display_v4]
  split
  · next heq =>
    obtain ⟨c, cs, hcs⟩ := List.exists_cons_of_ne_nil ip.display_ne_nil
    rw [hcs] at hopen heq
    cases heq
    exact absurd List.mem_cons_self hopen
  · rw [hpieces]
    simp only [Ipv4.ofChars?_display, port?_toDigits]

theorem ofText?_display_v6 (ip : Ipv6) (port : UInt16) :
    ofText? (Socket.mk (.v6 ip) port 0).display = some ⟨.v6 ip, port, 0⟩ := by
  have hclose : ']' ∉ ip.display.toList := Ip.not_mem_display (.v6 ip) (by decide)
  have hscope : '%' ∉ ip.display.toList := Ip.not_mem_display (.v6 ip) (by decide)
  have hport : ']' ∉ ':' :: Nat.toDigits 10 port.toNat := by
    rw [List.mem_cons, not_or]
    exact ⟨by decide, not_mem_toDigits (by decide) (by decide) (by decide)⟩
  have hscoped : scoped? ip.display.toList = some (ip, 0) := by
    rw [scoped?, pieces_of_not_mem hscope]
    simp only [Ipv6.ofChars?_display, Option.map_some]
  rw [ofText?, toList_display_v6, List.cons_append]
  simp only [pieces_append hclose, pieces_of_not_mem hport, hscoped, port?_toDigits]

theorem ofText?_display (ip : Ip) (port : UInt16) :
    ofText? (Socket.mk ip port 0).display = some ⟨ip, port, 0⟩ := by
  cases ip with
  | v4 ip => exact ofText?_display_v4 ip port
  | v6 ip => exact ofText?_display_v6 ip port

/-- The text of a socket has one colon, or brackets around an address. -/
theorem ofText?_eq_none {s : String} (hopen : s.toList.head? ≠ some '[')
    (hcolon : s.toList.count ':' ≠ 1) : ofText? s = none := by
  unfold ofText?
  split
  · next heq => exact absurd (by rw [heq]; rfl) hopen
  · split
    · next heq =>
      have hlength := length_pieces ':' s.toList
      rw [heq] at hlength
      exact absurd (Nat.succ.inj hlength).symm hcolon
    · rfl

end Socket

end Rpc.Net
