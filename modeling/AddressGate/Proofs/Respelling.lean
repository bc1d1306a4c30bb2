/-
  Entries and remote addresses in other spellings.

  * `Rules.Alike r r' c c'`: the rules answer alike about two remote texts, entry
    by entry; then they decide alike and report the same, but for the remote
    text in a denial (`Alike.evaluate_withRemote`);
  * `Pattern.Narrowed e e'`: an address as it is written, and the subnet of that
    address alone; `evaluateAddress_narrowed` says that peers see no difference;
  * `Pattern.Respelled e e'`: two spellings of a subnet; `evaluate_respelled`
    says that no remote text sees a difference, and that two spellings of a
    remote address differ for entries without a slash only.
-/
import AddressGate.Proofs.Prediction

namespace AddressGate

/-! ## Rules that answer alike -/

/-- **Lists that answer alike, entry by entry, answer alike.** -/
theorem Pattern.anyAccepts_congr {c c' : String} {ps ps' : List String}
    (h : List.Forall₂ (fun p p' => accepts p c = accepts p' c') ps ps') :
    anyAccepts c ps = anyAccepts c' ps' := by
  induction h with
  | nil => rfl
  | cons hp _ ih => rw [anyAccepts_cons, anyAccepts_cons, hp, ih]

/-- The event with another remote address, if it is a denial that has one. -/
def Event.withRemote (remote : String) : Event → Event
  | requestDenied (.blacklisted _) => requestDenied (.blacklisted remote)
  | requestDenied (.notWhitelisted _) => requestDenied (.notWhitelisted remote)
  | ev => ev

theorem Filter.admits_withRemote (f : Filter) (remote : String) (ev : Event) :
    f.admits (ev.withRemote remote) = f.admits ev := by
  cases ev with
  | requestDenied d => cases d <;> rfl
  | _ => rfl

/-- The same events are shown whatever the remote address is. -/
theorem Console.lines_map_withRemote (k : Console) (time remote : String) (evs : List Event) :
    k.lines time (evs.map (Event.withRemote remote)) =
      (evs.filter k.filter.admits).map fun ev => k.line time (ev.withRemote remote) := by
  rw [lines, List.filter_map, List.map_map]
  congr 1
  exact List.filter_congr fun ev _ => k.filter.admits_withRemote remote ev

namespace Rules

variable {r r' : Rules} {c c' : String} {list : ListName}

/-- Each entry answers about the one text as the entry in its place about the
    other. -/
def Alike (r r' : Rules) (c c' : String) : Prop :=
  ∀ list, List.Forall₂ (fun e e' => Pattern.accepts e c = Pattern.accepts e' c')
    (r.entries list) (r'.entries list)

theorem Alike.lists_eq (h : Alike r r' c c') (list : ListName) :
    r'.lists list c' = r.lists list c := by
  rw [lists, lists, Pattern.anyAccepts_congr (h list)]

theorem isEmpty_eq_of_forall₂ {R : String → String → Prop} {es es' : List String}
    (h : List.Forall₂ R es es') : es'.isEmpty = es.isEmpty := by
  cases h <;> rfl

theorem Alike.isEmpty_whitelist (h : Alike r r' c c') :
    r'.whitelist.isEmpty = r.whitelist.isEmpty :=
  isEmpty_eq_of_forall₂ (h .whitelist)

/-- The matcher reports nothing of a denial. -/
theorem map_withRemote_lists (remote : String) :
    (r.lists list c).events.map (Event.withRemote remote) = (r.lists list c).events := by
  rw [lists, Reported.events_mapEvents, List.map_map]
  rfl

/-- **Rules that answer alike about two texts decide alike about them**, and
    report the same of them but for the text in a denial. -/
theorem Alike.evaluate_withRemote (h : Alike r r' c c') :
    r'.evaluate c' = (r.evaluate c).mapEvents (Event.withRemote c') := by
  have hw : r'.whitelist = [] ↔ r.whitelist = [] := by
    rw [← List.isEmpty_iff, ← List.isEmpty_iff, h.isEmpty_whitelist]
  rw [evaluate_eq, evaluate_eq, h.lists_eq, h.lists_eq]
  simp only [hw]
  split_ifs <;> simp only [Reported.mapEvents, List.map_append, map_withRemote_lists] <;> rfl

theorem Alike.evaluate_eq (h : Alike r r' c c) : r'.evaluate c = r.evaluate c := by
  have hself : Alike r r c c := fun list => List.forall₂_same.2 fun e _ => rfl
  rw [h.evaluate_withRemote, ← hself.evaluate_withRemote]

end Rules

/-! ## The subnet of one address -/

namespace Pattern

/-- An entry, or instead of the text of an address the subnet of that address
    with a length that takes in all its bits. -/
inductive Narrowed : String → String → Prop
  | same (e : String) : Narrowed e e
  | host {a : Address} {digits : String} {n : ℕ} (hd : Text.IsDecimal digits.toList n)
      (hl : a.bits ≤ n) (hn : n ≤ 2 ^ 32 - 1) : Narrowed a.text (a.text ++ "/" ++ digits)

/-- **Peers see no difference between an address and its subnet.** -/
theorem Narrowed.accepts_text {e e' : String} (h : Narrowed e e') (x : Address) :
    accepts e x.text = accepts e' x.text := by
  cases h with
  | same => rfl
  | @host a digits n hd hl hn =>
    have ha := a.parse?_text
    have hslash := a.slash_not_mem_text
    have hs : Subnet.Spelled (a.text ++ "/" ++ digits) a.text n :=
      .mk (Address.ne_empty_of_parse? ha) hslash hd (by omega)
    rw [accepts_of_no_slash hslash, accepts_of_slash hs.slash_mem,
      Subnet.holds_eq_iff.2 (.read hs ha x.parse?_text)]
    have hshare : (a.text == x.text) = a.sharesPrefix x n := by
      rw [Bool.eq_iff_iff, beq_iff_eq, Address.text_inj, Address.sharesPrefix_iff_eq hl]
    rw [hshare]
    rfl

end Pattern

namespace Rules

/-- **Peers see no difference between addresses and their subnets.**  The text of
    an address as an entry, and the same text with a length that takes in all
    bits, give the same result with the same report for the text of any address.
    So rules decide the same about every peer, and about an unknown one, when
    some entries are exchanged so, in either list. -/
theorem evaluateAddress_narrowed :
    (∀ (a x : Address) (digits : String) (n : ℕ), Text.IsDecimal digits.toList n →
      a.bits ≤ n → n ≤ 2 ^ 32 - 1 →
      Pattern.anyAccepts x.text [a.text ++ "/" ++ digits] = Pattern.anyAccepts x.text [a.text]) ∧
    ∀ r r' : Rules,
      (∀ list, List.Forall₂ Pattern.Narrowed (r.entries list) (r'.entries list)) →
      ∀ remote : Option Address, r'.evaluateAddress remote = r.evaluateAddress remote := by
  refine ⟨fun a x digits n hd hl hn => ?_, fun r r' h remote => ?_⟩
  · have hentry := (Pattern.Narrowed.host hd hl hn).accepts_text x
    exact (Pattern.anyAccepts_congr (.cons hentry .nil)).symm
  · have halike : ∀ x : Address, Alike r r' x.text x.text := fun x list =>
      (h list).imp fun e e' he => he.accepts_text x
    cases remote with
    | some ip => exact (halike ip.canonical).evaluate_eq
    | none =>
      have hempty : r'.whitelist.isEmpty = r.whitelist.isEmpty :=
        isEmpty_eq_of_forall₂ (h .whitelist)
      rw [evaluateAddress, evaluateAddress, hempty]

/-- One of the two entries is exchanged; the length has a leading zero. -/
theorem evaluateAddress_narrowed_leading_zero :
    (∀ list, List.Forall₂ Pattern.Narrowed
      ((⟨["10.0.0.2"], ["10.0.0.1", "10.0.0.2"]⟩ : Rules).entries list)
      ((⟨["10.0.0.2"], ["10.0.0.1/032", "10.0.0.2"]⟩ : Rules).entries list)) ∧
    ∀ remote : Option Address,
      (⟨["10.0.0.2"], ["10.0.0.1/032", "10.0.0.2"]⟩ : Rules).evaluateAddress remote =
        (⟨["10.0.0.2"], ["10.0.0.1", "10.0.0.2"]⟩ : Rules).evaluateAddress remote := by
  have htext : (⟨.v4, [10, 0, 0, 1], rfl⟩ : Address).text = "10.0.0.1" := by decide +kernel
  have hd : Text.IsDecimal "032".toList 32 := Text.number?_ten_eq_some_iff.1 (by decide +kernel)
  have hhost := Pattern.Narrowed.host (a := ⟨.v4, [10, 0, 0, 1], rfl⟩) hd (by decide) (by decide)
  rw [htext] at hhost
  have h : ∀ list, List.Forall₂ Pattern.Narrowed
      ((⟨["10.0.0.2"], ["10.0.0.1", "10.0.0.2"]⟩ : Rules).entries list)
      ((⟨["10.0.0.2"], ["10.0.0.1/032", "10.0.0.2"]⟩ : Rules).entries list) := by
    rintro (_ | _)
    · exact .cons (.same _) .nil
    · exact .cons hhost (.cons (.same _) .nil)
  exact ⟨h, evaluateAddress_narrowed.2 _ _ h⟩

end Rules

/-! ## Two spellings of a subnet -/

namespace Subnet

variable {specifier candidate candidate' : String} {b : Address}

/-- A test only looks at the address that a readable candidate stands for. -/
theorem holds_congr (hc : Address.parse? candidate = some b)
    (hc' : Address.parse? candidate' = some b) :
    holds specifier candidate = holds specifier candidate' := by
  rw [holds_eq_iff]
  generalize hr : holds specifier candidate' = r
  cases holds_eq_iff.1 hr with
  | specifier hs => exact .specifier hs
  | address hs ha => exact .address hs ha
  | candidate hs ha hn =>
    rw [hc'] at hn
    cases hn
  | read hs ha hb =>
    obtain rfl := Option.some.inj (hc'.symm.trans hb)
    exact .read hs ha hc

end Subnet

namespace Pattern

/-- An entry, or instead of a well-formed subnet the same subnet in another
    spelling: an address text that is read as the same address, and the length
    counted within the address. -/
inductive Respelled : String → String → Prop
  | same (e : String) : Respelled e e
  | subnet {e address address' digits : String} {n : ℕ} {a : Address}
      (hs : Subnet.Spelled e address n) (ha : Address.parse? address = some a)
      (ha' : Address.parse? address' = some a)
      (hd : Text.IsDecimal digits.toList (min n a.bits)) :
      Respelled e (address' ++ "/" ++ digits)

/-- **No text sees a difference between two spellings of a subnet.** -/
theorem Respelled.accepts_eq {e e' : String} (h : Respelled e e') (c : String) :
    accepts e c = accepts e' c := by
  cases h with
  | same => rfl
  | @subnet address address' digits n a hs ha ha' hd =>
    have hlt : n < 2 ^ 32 := hs.length_lt
    have hs' : Subnet.Spelled (address' ++ "/" ++ digits) address' (min n a.bits) :=
      .mk (Address.ne_empty_of_parse? ha') (Address.slash_not_mem_of_parse? ha') hd (by omega)
    rw [accepts_of_slash hs.slash_mem, accepts_of_slash hs'.slash_mem]
    cases hc : Address.parse? c with
    | none =>
      rw [Subnet.holds_eq_iff.2 (.candidate hs ha hc),
        Subnet.holds_eq_iff.2 (.candidate hs' ha' hc)]
    | some b =>
      rw [Subnet.holds_eq_iff.2 (.read hs ha hc), Subnet.holds_eq_iff.2 (.read hs' ha' hc),
        Address.sharesPrefix_min]

/-- An entry without a slash that is neither of two spellings of an address does
    not tell them apart, and no other entry does. -/
theorem accepts_congr {e c c' : String} {b : Address} (hc : Address.parse? c = some b)
    (hc' : Address.parse? c' = some b) (he : '/' ∉ e.toList → e ≠ c ∧ e ≠ c') :
    accepts e c = accepts e c' := by
  by_cases h : '/' ∈ e.toList
  · rw [accepts_of_slash h, accepts_of_slash h, Subnet.holds_congr hc hc']
  · obtain ⟨hne, hne'⟩ := he h
    rw [accepts_of_no_slash h, accepts_of_no_slash h, beq_false_of_ne hne, beq_false_of_ne hne']

end Pattern

namespace Rules

/-- **Another spelling only gets past entries without a slash.**  Rules whose
    well-formed subnets are spelled otherwise decide the same about every remote
    text, with the same report.  For two remote texts that are read as the same
    address, neither of which is an entry without a slash, they decide the same,
    and the same lines are shown of it but for the remote text in a denial. -/
theorem evaluate_respelled {r r' : Rules}
    (h : ∀ list, List.Forall₂ Pattern.Respelled (r.entries list) (r'.entries list)) :
    (∀ remote, r'.evaluate remote = r.evaluate remote) ∧
    ∀ (c c' : String) (b : Address), Address.parse? c = some b → Address.parse? c' = some b →
      (∀ list, ∀ e ∈ r.entries list, '/' ∉ e.toList → e ≠ c ∧ e ≠ c') →
      (r'.evaluate c').result = (r.evaluate c).result ∧
      ∀ (console : Console) (time : String),
        console.lines time (r'.evaluate c').events =
          ((r.evaluate c).events.filter console.filter.admits).map fun ev =>
            console.line time (ev.withRemote c') := by
  have hrespelled : ∀ remote, r'.evaluate remote = r.evaluate remote := by
    intro remote
    have halike : Alike r r' remote remote := fun list =>
      (h list).imp fun e e' he => he.accepts_eq remote
    exact halike.evaluate_eq
  refine ⟨hrespelled, fun c c' b hc hc' hv => ?_⟩
  have halike : Alike r r c c' := fun list =>
    List.forall₂_same.2 fun e he => Pattern.accepts_congr hc hc' (hv list e he)
  rw [hrespelled, halike.evaluate_withRemote]
  exact ⟨rfl, fun console time => console.lines_map_withRemote time c' _⟩

/-- The subnet is spelled otherwise, and so is the remote address; neither
    spelling is that of the entry without a slash. -/
theorem evaluate_respelled_low_bits :
    (∀ list, List.Forall₂ Pattern.Respelled
      ((⟨["10.1.2.3/200", "10.1.2.3"], []⟩ : Rules).entries list)
      ((⟨["266.01.2.3/32", "10.1.2.3"], []⟩ : Rules).entries list)) ∧
    Address.parse? "10.01.2.3" = some ⟨.v4, [10, 1, 2, 3], rfl⟩ ∧
    Address.parse? "266.1.2.003" = some ⟨.v4, [10, 1, 2, 3], rfl⟩ ∧
    (∀ list, ∀ e ∈ (⟨["10.1.2.3/200", "10.1.2.3"], []⟩ : Rules).entries list, '/' ∉ e.toList →
      e ≠ "10.01.2.3" ∧ e ≠ "266.1.2.003") ∧
    ((⟨["266.01.2.3/32", "10.1.2.3"], []⟩ : Rules).evaluate "266.1.2.003").result = .denied := by
  have hs : Subnet.Spelled "10.1.2.3/200" "10.1.2.3" 200 :=
    Subnet.split?_eq_some_iff.1 (by decide +kernel)
  have ha : Address.parse? "10.1.2.3" = some ⟨.v4, [10, 1, 2, 3], rfl⟩ := by decide +kernel
  have ha' : Address.parse? "266.01.2.3" = some ⟨.v4, [10, 1, 2, 3], rfl⟩ := by decide +kernel
  have hc : Address.parse? "10.01.2.3" = some ⟨.v4, [10, 1, 2, 3], rfl⟩ := by decide +kernel
  have hc' : Address.parse? "266.1.2.003" = some ⟨.v4, [10, 1, 2, 3], rfl⟩ := by decide +kernel
  have hd : Text.IsDecimal "32".toList 32 := Text.number?_ten_eq_some_iff.1 (by decide +kernel)
  have hsubnet := Pattern.Respelled.subnet hs ha ha' hd
  have h : ∀ list, List.Forall₂ Pattern.Respelled
      ((⟨["10.1.2.3/200", "10.1.2.3"], []⟩ : Rules).entries list)
      ((⟨["266.01.2.3/32", "10.1.2.3"], []⟩ : Rules).entries list) := by
    rintro (_ | _)
    · exact .cons hsubnet (.cons (.same _) .nil)
    · exact .nil
  have hv : ∀ list, ∀ e ∈ (⟨["10.1.2.3/200", "10.1.2.3"], []⟩ : Rules).entries list,
      '/' ∉ e.toList → e ≠ "10.01.2.3" ∧ e ≠ "266.1.2.003" := by
    rintro (_ | _) <;> decide
  refine ⟨h, hc, hc', hv, ?_⟩
  rw [((evaluate_respelled h).2 _ _ _ hc hc' hv).1]
  decide +kernel

end Rules

end AddressGate
