import Southbound.Device
import Southbound.Proofs.AddressText

/-!
# Identities as they are written and read

An identity is the key that joins a device across all collaborators, so nothing may be lost between
its text and itself.  Two readers are involved: `Identity.resolve` takes the three parts apart,
`Identity.parse` takes the one-line form, where the colon separates the parts and also occurs in
them.

`Identity.parse_eq_ok_iff` says exactly what the one-line form is read as: it is cut at its first
and its last colon and the parts are resolved.  There is one exception.  The form is tried as an
endpoint first, and an endpoint may carry a numeric zone, which is read and dropped; resolving the
same part refuses it (`Identity.parse_drops_zone`).

`Identity.recovered` is the way back: whatever is written of an identity leads to it again.
-/

namespace Southbound

open Southbound.Text

/-! ## Blanks and brackets -/

theorem Text.trimStart_eq_self {cs : List Char} (plain : ∀ c ∈ cs, isBlank c = false) :
    trimStart cs = cs := by
  cases cs with
  | nil => rfl
  | cons c cs => rw [trimStart, List.dropWhile_cons_of_neg (by simp [plain c])]

theorem Text.trim_eq_self {cs : List Char} (plain : ∀ c ∈ cs, isBlank c = false) :
    trim cs = cs := by
  have backwards : ∀ c ∈ cs.reverse, isBlank c = false := fun c mem =>
    plain c (List.mem_reverse.1 mem)
  rw [trim, trimStart_eq_self plain, trimStart_eq_self backwards, List.reverse_reverse]

theorem isBlank_of_digit {base : Nat} {c : Char} (digit : isDigitIn base c = true) :
    isBlank c = false := by
  have range : 48 ≤ c.toNat ∧ c.toNat ≤ 102 := by
    simp only [isDigitIn, digitValue, Char.le_def, UInt32.le_iff_toNat_le] at digit
    split at digit
    · next h => exact ⟨h.1, Nat.le_trans h.2 (by decide)⟩
    split at digit
    · next h => exact ⟨Nat.le_trans (by decide) h.1, h.2⟩
    split at digit
    · next h => exact ⟨Nat.le_trans (by decide) h.1, Nat.le_trans h.2 (by decide)⟩
    · cases digit
  simp only [isBlank, Bool.or_eq_false_iff, Bool.and_eq_false_iff, decide_eq_false_iff_not,
    beq_eq_false_iff_ne]
  omega

namespace Identity

theorem unbracketed_brackets (cs : List Char) : unbracketed ('[' :: (cs ++ [']'])) = cs := by
  simp [unbracketed]

theorem unbracketed_eq_self {cs : List Char} (bare : '[' ∉ cs) : unbracketed cs = cs := by
  cases cs with
  | nil => rfl
  | cons c cs =>
    have : c ≠ '[' := fun same => bare (same ▸ List.mem_cons_self)
    simp [unbracketed, this]

/-! ## The address of an identity -/

open Address

theorem isBlank_of_addressChar {c : Char} (h : isAddressChar c = true) : isBlank c = false := by
  simp only [isAddressChar, Bool.or_eq_true, beq_iff_eq] at h
  rcases h with (digit | rfl) | rfl
  · exact isBlank_of_digit digit
  · rfl
  · rfl

/-- An address is resolved as it stands. -/
theorem unbracketed_trim_of_read? {cs : List Char} {address : Address}
    (read : read? cs = some address) : unbracketed (trim cs) = cs := by
  have chars := isAddressChar_of_read? read
  rw [trim_eq_self fun c mem => isBlank_of_addressChar (chars c mem)]
  exact unbracketed_eq_self fun mem => absurd (chars '[' mem) (by decide)

/-- Brackets around an address are taken off. -/
theorem unbracketed_trim_brackets {cs : List Char} (plain : ∀ c ∈ cs, isBlank c = false) :
    unbracketed (trim ('[' :: (cs ++ [']']))) = cs := by
  rw [trim_eq_self, unbracketed_brackets]
  intro c mem
  rcases List.mem_cons.1 mem with rfl | mem
  · rfl
  rcases List.mem_append.1 mem with mem | mem
  · exact plain c mem
  · rw [List.mem_singleton.1 mem]
    rfl

theorem read?_of_host {host : List Char} {address : Address} (h : Host host address) :
    read? (unbracketed (trim host)) = some address := by
  cases h with
  | dotted read =>
    have address := read?_of_readV4 read
    rw [unbracketed_trim_of_read? address, address]
  | bracketed read =>
    have address := read?_of_readV6 read
    rw [unbracketed_trim_brackets fun c mem =>
      isBlank_of_addressChar (isAddressChar_of_read? address c mem), address]

/-- With a zone, the host part is no address. -/
theorem read?_of_zonedHost {host : List Char} {address : Address} (h : ZonedHost host address) :
    read? (unbracketed (trim host)) = none := by
  obtain @⟨cs, zone, groups, n, read, zoned⟩ := h
  have address := read?_of_readV6 read
  obtain ⟨front, whole, digits⟩ := (tidy_readNumeral zoneRule).takes zoned
  have plain : ∀ c ∈ cs ++ '%' :: zone, isBlank c = false := by
    intro c mem
    rcases List.mem_append.1 mem with mem | mem
    · exact isBlank_of_addressChar (isAddressChar_of_read? address c mem)
    rcases List.mem_cons.1 mem with rfl | mem
    · rfl
    · exact isBlank_of_digit (digits c (by simpa [whole] using mem))
  have bare : unbracketed (trim ('[' :: (cs ++ '%' :: (zone ++ [']'])))) = cs ++ '%' :: zone := by
    simpa using unbracketed_trim_brackets plain
  rw [bare, Option.eq_none_iff_forall_ne_some]
  intro other read'
  exact absurd (isAddressChar_of_read? read' '%' (by simp)) (by decide)

theorem read?_toString (address : Address) :
    read? (unbracketed (trim (toString address).toList)) = some address := by
  have text : (toString address).toList = address.render := String.toList_ofList
  rw [text, unbracketed_trim_of_read? (read?_render address), read?_render]

end Identity

/-! ## Schemes -/

theorem isSchemeText_raised (s : String) : isSchemeText (raised s) = isSchemeText s := by
  rw [← isSchemeText_lowered, lowered_raised, isSchemeText_lowered]

namespace Scheme

theorem ofText?_eq_some {s : String} {scheme : Scheme} :
    ofText? s = some scheme ↔ isSchemeText s = true ∧ lowered s = scheme.text := by
  rw [ofText?]
  split
  · next named =>
    simp only [named, true_and, Option.some.injEq]
    exact ⟨fun same => same ▸ rfl, fun same => text_injective same⟩
  · next unnamed => simp [unnamed]

theorem ofText?_text (scheme : Scheme) : ofText? scheme.text = some scheme :=
  ofText?_eq_some.2 ⟨scheme.wellFormed, scheme.inSmallLetters⟩

theorem ofText?_raised (scheme : Scheme) : ofText? (raised scheme.text) = some scheme :=
  ofText?_eq_some.2 ⟨(isSchemeText_raised _).trans scheme.wellFormed,
    (lowered_raised _).trans scheme.inSmallLetters⟩

/-- The name of a scheme has no colon. -/
theorem not_mem_of_ofText? {s : String} {scheme : Scheme} (named : ofText? s = some scheme) :
    ':' ∉ s.toList := by
  have text := (ofText?_eq_some.1 named).1
  rw [isSchemeText] at text
  intro mem
  cases letters : s.toList with
  | nil => simp [letters] at mem
  | cons c cs =>
    simp only [letters, Bool.and_eq_true, List.all_eq_true] at text
    rw [letters] at mem
    rcases List.mem_cons.1 mem with rfl | mem
    · exact absurd text.1 (by decide)
    · exact absurd (text.2 ':' mem) (by decide)

end Scheme

namespace Identity

open Address

/-! ## Resolving -/

theorem resolve_eq_ok {scheme address : String} {port : UInt16} {id : Identity} :
    resolve scheme address port = .ok id ↔
      Scheme.ofText? scheme = some id.scheme ∧
        read? (unbracketed (trim address.toList)) = some id.address ∧ port = id.port := by
  obtain ⟨s, a, p, pos⟩ := id
  rw [resolve]
  cases Scheme.ofText? scheme with
  | none => simp
  | some named =>
    cases read? (unbracketed (trim address.toList)) with
    | none => simp
    | some ip =>
      by_cases zero : port = 0
      · simp [zero, Ne.symm pos]
      · simp [zero]

/-- Only the address that is read counts, not how it is written. -/
theorem resolve_congr {scheme a b : String} {port : UInt16} {id : Identity}
    (same : read? (unbracketed (trim a.toList)) = read? (unbracketed (trim b.toList)))
    (resolved : resolve scheme a port = .ok id) : resolve scheme b port = .ok id := by
  obtain ⟨named, address, port⟩ := resolve_eq_ok.1 resolved
  exact resolve_eq_ok.2 ⟨named, same ▸ address, port⟩

/-! ## The one-line form -/

/-- The port of an endpoint is a count without a sign. -/
theorem readPort_iff {digits : List Char} {port : UInt16} :
    readPort digits = some (port, []) ↔
      digits.head? ≠ some '+' ∧ readCount 0xFFFF digits = some port.toNat := by
  have numeral : readPort digits = some (port, []) ↔
      readNumeral ⟨10, none, true, 0xFFFF⟩ digits = some (port.toNat, []) := by
    rw [readPort, Option.map_eq_some_iff]
    constructor
    · rintro ⟨⟨n, rest⟩, read, same⟩
      obtain ⟨rfl, rfl⟩ := Prod.mk.inj same
      have below : n < 2 ^ 16 := Nat.lt_succ_of_le (readNumeral_le read)
      rw [read, UInt16.toNat_ofNat_of_lt' below]
    · intro read
      exact ⟨_, read, by simp⟩
  constructor
  · intro read
    have unsigned : digits.head? ≠ some '+' := fun plus =>
      absurd (isDigit_of_readPort read '+' (List.mem_of_mem_head? plus)) (by decide)
    refine ⟨unsigned, (readCount_unsigned ?_).2 (numeral.1 read)⟩
    rintro rest rfl
    exact unsigned rfl
  · rintro ⟨unsigned, count⟩
    refine numeral.2 ((readCount_unsigned ?_).1 count)
    rintro rest rfl
    exact unsigned rfl

/-- The port of an endpoint follows the last colon. -/
theorem cut_of_readEndpoint? {rest : List Char} {ip : Address} {port : UInt16}
    (endpoint : readEndpoint? rest = some (ip, port)) :
    ∃ host digits, splitLast ':' rest = some (host, digits) ∧ digits.head? ≠ some '+' ∧
      readCount 0xFFFF digits = some port.toNat ∧ (Host host ip ∨ ZonedHost host ip) := by
  obtain ⟨host, digits, rfl, number, form⟩ := readEndpoint?_eq_some.1 endpoint
  obtain ⟨unsigned, count⟩ := readPort_iff.1 number
  exact ⟨host, digits, splitLast_eq_some.2 ⟨rfl, not_mem_of_readPort number⟩, unsigned, count, form⟩

/-- An address is resolved like the host part that it was read from. -/
theorem resolve_host {scheme : String} {host : List Char} {ip : Address} {port : UInt16}
    {id : Identity} (form : Host host ip) :
    resolve scheme (toString ip) port = .ok id ↔
      resolve scheme (String.ofList host) port = .ok id := by
  have same : read? (unbracketed (trim (toString ip).toList))
      = read? (unbracketed (trim (String.ofList host).toList)) := by
    rw [read?_toString, String.toList_ofList, read?_of_host form]
  exact ⟨resolve_congr same, resolve_congr same.symm⟩

section cutting

variable {text : String} {scheme rest host digits : List Char} {port : UInt16} {id : Identity}

theorem parse_of_endpoint {ip : Address} (first : splitFirst ':' text.toList = some (scheme, rest))
    (endpoint : readEndpoint? rest = some (ip, port)) :
    parse text = resolve (String.ofList scheme) (toString ip) port := by
  simp [parse, first, endpoint]

/-- Parts that resolve are what the one-line form is read as. -/
theorem parse_of_resolved (first : splitFirst ':' text.toList = some (scheme, rest))
    (last : splitLast ':' rest = some (host, digits))
    (count : readCount 0xFFFF digits = some port.toNat)
    (resolved : resolve (String.ofList scheme) (String.ofList host) port = .ok id) :
    parse text = .ok id := by
  cases endpoint : readEndpoint? rest with
  | none => simp [parse, first, endpoint, last, count, resolved]
  | some read =>
    obtain ⟨ip, port'⟩ := read
    obtain ⟨host', digits', cut, -, count', form⟩ := cut_of_readEndpoint? endpoint
    -- the endpoint ends where the text was cut
    obtain ⟨rfl, rfl⟩ := Prod.mk.inj (Option.some.inj (last.symm.trans cut))
    obtain rfl : port = port' :=
      UInt16.toNat_inj.1 (Option.some.inj (count.symm.trans count'))
    rw [parse_of_endpoint first endpoint]
    rcases form with form | zoned
    · exact (resolve_host form).2 resolved
    · have address := (resolve_eq_ok.1 resolved).2.1
      rw [String.toList_ofList, read?_of_zonedHost zoned] at address
      cases address

/-- A zone is read, and the address is taken without it. -/
theorem parse_of_zonedHost {address : Address}
    (first : splitFirst ':' text.toList = some (scheme, rest))
    (last : splitLast ':' rest = some (host, digits))
    (count : readCount 0xFFFF digits = some port.toNat) (zoned : ZonedHost host address)
    (unsigned : digits.head? ≠ some '+')
    (resolved : resolve (String.ofList scheme) (toString address) port = .ok id) :
    parse text = .ok id := by
  have endpoint : readEndpoint? rest = some (address, port) :=
    readEndpoint?_eq_some.2 ⟨host, digits, (splitLast_eq_some.1 last).1,
      readPort_iff.2 ⟨unsigned, count⟩, .inr zoned⟩
  rw [parse_of_endpoint first endpoint, resolved]

/-- A text that is no endpoint is cut at its last colon. -/
theorem cut_of_parse (first : splitFirst ':' text.toList = some (scheme, rest))
    (other : readEndpoint? rest = none) (parsed : parse text = .ok id) :
    ∃ host digits port, splitLast ':' rest = some (host, digits) ∧
      readCount 0xFFFF digits = some (UInt16.toNat port) ∧
      resolve (String.ofList scheme) (String.ofList host) port = .ok id := by
  simp only [parse, first, other] at parsed
  cases last : splitLast ':' rest with
  | none => simp [last] at parsed
  | some parts =>
    obtain ⟨host, digits⟩ := parts
    simp only [last] at parsed
    cases count : readCount 0xFFFF digits with
    | none => simp [count] at parsed
    | some n =>
      have below : n < 2 ^ 16 := Nat.lt_succ_of_le (readCount_le count)
      simp only [count] at parsed
      exact ⟨host, digits, UInt16.ofNat n, rfl,
        count.trans (by rw [UInt16.toNat_ofNat_of_lt' below]), parsed⟩

end cutting

/-- What the one-line form is read as.  The text is cut at the first and at the last colon, and the
parts are resolved; but the zone of a colon form in brackets is dropped. -/
theorem parse_eq_ok_iff {text : String} {id : Identity} :
    parse text = .ok id ↔
      ∃ (scheme rest host digits : List Char) (port : UInt16),
        splitFirst ':' text.toList = some (scheme, rest) ∧
        splitLast ':' rest = some (host, digits) ∧
        readCount 0xFFFF digits = some port.toNat ∧
        (resolve (String.ofList scheme) (String.ofList host) port = .ok id ∨
          ∃ address, ZonedHost host address ∧ digits.head? ≠ some '+' ∧
            resolve (String.ofList scheme) (toString address) port = .ok id) := by
  constructor
  · intro parsed
    cases first : splitFirst ':' text.toList with
    | none => simp [parse, first] at parsed
    | some parts =>
      obtain ⟨scheme, rest⟩ := parts
      cases endpoint : readEndpoint? rest with
      | none =>
        obtain ⟨host, digits, port, last, count, resolved⟩ := cut_of_parse first endpoint parsed
        exact ⟨scheme, rest, host, digits, port, rfl, last, count, .inl resolved⟩
      | some read =>
        obtain ⟨ip, port⟩ := read
        obtain ⟨host, digits, last, unsigned, count, form⟩ := cut_of_readEndpoint? endpoint
        rw [parse_of_endpoint first endpoint] at parsed
        refine ⟨scheme, rest, host, digits, port, rfl, last, count, ?_⟩
        rcases form with form | zoned
        · exact .inl ((resolve_host form).1 parsed)
        · exact .inr ⟨ip, zoned, unsigned, parsed⟩
  · rintro ⟨scheme, rest, host, digits, port, first, last, count, resolved | zoned⟩
    · exact parse_of_resolved first last count resolved
    · obtain ⟨address, zoned, unsigned, resolved⟩ := zoned
      exact parse_of_zonedHost first last count zoned unsigned resolved

/-- A numeric zone is accepted in the one-line form and dropped, while the parts that the form is
cut into are refused. -/
theorem parse_drops_zone :
    ∃ id, parse "netconf:[fe80::1%5]:830" = .ok id ∧ id.text = "netconf:[fe80::1]:830" ∧
      splitFirst ':' "netconf:[fe80::1%5]:830".toList
        = some ("netconf".toList, "[fe80::1%5]:830".toList) ∧
      splitLast ':' "[fe80::1%5]:830".toList = some ("[fe80::1%5]".toList, "830".toList) ∧
      readCount 0xFFFF "830".toList = some 830 ∧
      resolve "netconf" "[fe80::1%5]" 830
        = .error (.invalidAddress "[fe80::1%5]" .notAnAddress) :=
  ⟨⟨⟨"netconf", by decide +kernel, by decide +kernel⟩, .v6 #v[0xFE80, 0, 0, 0, 0, 0, 0, 1], 830,
    by decide⟩, by decide +kernel, by decide +kernel, by decide +kernel, by decide +kernel,
    by decide +kernel, by decide +kernel⟩

/-! ## Recovering an identity -/

/-- Three parts that resolve may be joined. -/
theorem parse_of_parts {text : String} {scheme host digits : List Char} {port : UInt16}
    {id : Identity} (joined : text.toList = scheme ++ ':' :: (host ++ ':' :: digits))
    (bare : ':' ∉ digits) (count : readCount 0xFFFF digits = some port.toNat)
    (resolved : resolve (String.ofList scheme) (String.ofList host) port = .ok id) :
    parse text = .ok id := by
  have named := Scheme.not_mem_of_ofText? (resolve_eq_ok.1 resolved).1
  rw [String.toList_ofList] at named
  exact parse_of_resolved (splitFirst_eq_some.2 ⟨joined, named⟩)
    (splitLast_eq_some.2 ⟨rfl, bare⟩) count resolved

theorem not_mem_decimal (n : Nat) : ':' ∉ decimal n := fun mem =>
  absurd (isDigitIn_of_mem_toDigits (by decide : 1 < 10) (by decide) n ':' mem) (by decide)

theorem readCount_port (port : UInt16) : readCount 0xFFFF (decimal port.toNat) = some port.toNat :=
  readCount_decimal (Nat.le_of_lt_succ port.toNat_lt)

theorem toList_toString (n : Nat) : (toString n).toList = decimal n := by
  rw [Nat.toString_eq_ofList_toDigits, String.toList_ofList, decimal]

/-- The host part that an address is written as. -/
theorem renderEndpoint_eq (address : Address) (port : UInt16) :
    ∃ host, Host host address ∧
      Address.renderEndpoint address port = host ++ ':' :: decimal port.toNat := by
  cases address with
  | v4 octets =>
    rcases read?_cases (read?_render (v4 octets)) with ⟨octets, same, read⟩ | ⟨_, same, _⟩
    · cases same
      exact ⟨_, .dotted read, rfl⟩
    · cases same
  | v6 groups =>
    rcases read?_cases (read?_render (v6 groups)) with ⟨_, same, _⟩ | ⟨groups, same, read⟩
    · cases same
    · cases same
      exact ⟨_, .bracketed read, rfl⟩

/-- The one-line form is read back. -/
theorem parse_text (id : Identity) : parse id.text = .ok id := by
  obtain ⟨host, form, endpoint⟩ := renderEndpoint_eq id.address id.port
  have joined : id.text.toList
      = id.scheme.text.toList ++ ':' :: (host ++ ':' :: decimal id.port.toNat) := by
    rw [text, String.toList_ofList, endpoint]
  refine parse_of_parts joined (not_mem_decimal id.port.toNat) (readCount_port id.port)
    (resolve_eq_ok.2 ⟨?_, ?_, rfl⟩)
  · rw [String.ofList_toList, Scheme.ofText?_text]
  · rw [String.toList_ofList, read?_of_host form]

theorem text_injective {a b : Identity} (same : a.text = b.text) : a = b := by
  have parsed := parse_text a
  rw [same, parse_text b] at parsed
  exact (Except.ok.inj parsed).symm

theorem get?_ofIdentity (id : Identity) :
    (Annotations.ofIdentity id).get? Annotations.protocolKey = some (raised id.scheme.text) ∧
      (Annotations.ofIdentity id).get? Annotations.addressKey = some (toString id.address) ∧
      (Annotations.ofIdentity id).get? Annotations.portKey = some (toString id.port.toNat) := by
  simp [Annotations.ofIdentity, SortedMap.ofList, SortedMap.get?_insert, Annotations.protocolKey,
    Annotations.addressKey, Annotations.portKey]

/-- An identity that was resolved can be recovered from everything that is written of it: from its
one-line form, which no other identity has, from the parts it was resolved from when they are
joined, and from the remarks on a device of which nothing else is known. -/
theorem recovered {scheme address : String} {port : UInt16} {id : Identity}
    (resolved : resolve scheme address port = .ok id) :
    parse id.text = .ok id ∧
      (∀ other : Identity, other.text = id.text → other = id) ∧
      parse (scheme ++ ":" ++ address ++ ":" ++ toString port.toNat) = .ok id ∧
      ∃ (protocol ip digits : String) (port' : UInt16),
        (Description.placeholder id).annotations.get? Annotations.protocolKey = some protocol ∧
        (Description.placeholder id).annotations.get? Annotations.addressKey = some ip ∧
        (Description.placeholder id).annotations.get? Annotations.portKey = some digits ∧
        readCount 0xFFFF digits.toList = some port'.toNat ∧
        resolve protocol ip port' = .ok id := by
  refine ⟨parse_text id, fun other same => text_injective same, ?joined, ?remarks⟩
  case joined =>
    have joined : (scheme ++ ":" ++ address ++ ":" ++ toString port.toNat).toList
        = scheme.toList ++ ':' :: (address.toList ++ ':' :: decimal port.toNat) := by
      simp [decimal]
    refine parse_of_parts joined (not_mem_decimal port.toNat) (readCount_port port) ?_
    rwa [String.ofList_toList, String.ofList_toList]
  case remarks =>
    obtain ⟨protocol, ip, digits⟩ := get?_ofIdentity id
    refine ⟨_, _, _, id.port, protocol, ip, digits, ?_, ?_⟩
    · rw [toList_toString, readCount_port]
    · exact resolve_eq_ok.2 ⟨Scheme.ofText?_raised id.scheme, read?_toString id.address, rfl⟩

/-- The spelling does not matter: letter case, blanks, brackets and zeros are all read away. -/
theorem recovered_spelling :
    ∃ id, resolve "NetConf" " [FE80:0::0:1] " 830 = .ok id ∧
      id.text = "netconf:[fe80::1]:830" ∧ parse id.text = .ok id ∧
      parse ("NetConf" ++ ":" ++ " [FE80:0::0:1] " ++ ":" ++ toString (830 : UInt16).toNat)
        = .ok id := by
  have resolved : resolve "NetConf" " [FE80:0::0:1] " 830
      = .ok ⟨⟨"netconf", by decide +kernel, by decide +kernel⟩,
          .v6 #v[0xFE80, 0, 0, 0, 0, 0, 0, 1], 830, by decide⟩ := by decide +kernel
  obtain ⟨text, -, joined, -⟩ := recovered resolved
  exact ⟨_, resolved, by decide +kernel, text, joined⟩

end Identity

end Southbound
