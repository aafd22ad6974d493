import DeviceAuth.Proofs.Session.Counter
import DeviceAuth.Proofs.Session.Storage
import DeviceAuth.Proofs.Token.Header

/-!
# What an authorization header says

The header of a signed request is one line of quoted parts, and nothing escapes them. Four of the six
parts come from signing: Base64, digits and hyphens, or one of a few words. They contain no quote, and
are read back from any header (`RequestSignature.header_inj_iff`). The identifier of the activation and
the key of the application come from the server and the application, which may choose any text. They
stand side by side, with a border of quotes and a label between them, and the border may occur inside
of them as well.

`RequestSignature.Recut` says what two signatures of one header can differ in: the application key of
one is cut at a border inside of it, and everything before that went over to the activation. Signing
looks at neither name (`Session.gives_sign_renamed`), so wherever such a cut is possible there is a
session that signs what is cut. `RequestSignature.header_settles` puts both together: a header settles
its signature up to such cuts, and entirely if the two names in it contain no quote.
-/

set_option autoImplicit false

namespace DeviceAuth

/-! ## Borders -/

namespace Header

variable {label : List Char} {x y x' y' gap : List Char}

/-- What stands between two parts of a header. -/
def border (label : List Char) : List Char := '"' :: label ++ ['"']

/-- Two readings of one text: up to a label without quotes and the quote after it, and up to some quote,
which is that one or a later one. -/
theorem append_label_eq_iff (clean : '"' ∉ label) :
    label ++ '"' :: y = gap ++ '"' :: y' ↔
      gap = label ∧ y = y' ∨ ∃ moved, gap = label ++ '"' :: moved ∧ y = moved ++ '"' :: y' := by
  constructor
  · intro same
    rcases List.append_eq_append_iff.1 same with ⟨more, rfl, rest⟩ | ⟨more, rfl, rest⟩
    · cases more with
      | nil => exact .inl ⟨List.append_nil label, (List.cons.inj rest).2⟩
      | cons c moved =>
        obtain ⟨rfl, later⟩ := List.cons.inj rest
        exact .inr ⟨moved, rfl, later⟩
    · cases more with
      | nil => exact .inl ⟨(List.append_nil gap).symm, (List.cons.inj rest).2.symm⟩
      | cons c more =>
        obtain ⟨rfl, -⟩ := List.cons.inj rest
        exact absurd (List.mem_append_right gap List.mem_cons_self) clean
  · rintro (⟨rfl, rfl⟩ | ⟨moved, rfl, rfl⟩)
    · rfl
    · simp

/-- A text that begins with a border has one after a gap as well: the two are one, or share a quote, or
something is between them. -/
theorem border_append_eq_iff (clean : '"' ∉ label) :
    border label ++ y = gap ++ (border label ++ y') ↔
      (gap = [] ∧ y = y')
        ∨ (gap = '"' :: label ∧ y = label ++ '"' :: y')
        ∨ ∃ moved, gap = border label ++ moved ∧ y = moved ++ border label ++ y' := by
  cases gap with
  | nil => simp [border]
  | cons c gap =>
    calc border label ++ y = c :: gap ++ (border label ++ y')
        ↔ '"' = c ∧ label ++ '"' :: y = gap ++ '"' :: (label ++ '"' :: y') := by simp [border]
      _ ↔ '"' = c ∧ (gap = label ∧ y = label ++ '"' :: y'
            ∨ ∃ moved, gap = label ++ '"' :: moved ∧ y = moved ++ '"' :: (label ++ '"' :: y')) :=
          and_congr_right' (append_label_eq_iff clean)
      _ ↔ _ := by simp [border, and_or_left, and_assoc, eq_comm]

end Header

/-! ## The parts that come from signing -/

namespace Text

theorem mem_intercalate_groups {groups : List String} (h : ∀ group ∈ groups, IsGroup group) {c : Char}
    (inside : c ∈ ("-".intercalate groups).toList) : c = '-' ∨ c.isDigit = true := by
  induction groups with
  | nil => simp at inside
  | cons group groups ih =>
    have digits := (h group List.mem_cons_self).2 c
    cases groups with
    | nil => exact .inr (digits (by simpa using inside))
    | cons next groups =>
      rw [String.intercalate_cons_of_ne_nil (by simp), String.toList_append, String.toList_append,
        List.mem_append, List.mem_append] at inside
      rcases inside with (first | hyphen) | later
      · exact .inr (digits first)
      · exact .inl (List.mem_singleton.1 hyphen)
      · exact ih (fun g hg => h g (List.mem_cons_of_mem _ hg)) later

end Text

theorem Signature.HasComponents.quote_notMem {format : Format} {count : Nat} {text : String}
    (h : HasComponents format count text) : '"' ∉ text.toList := by
  cases format with
  | base64 =>
    obtain ⟨parts, -, rfl⟩ := h
    exact Header.quote_notMem_encode _
  | decimal =>
    obtain ⟨groups, -, shape, rfl⟩ := h
    intro inside
    rcases Text.mem_intercalate_groups shape inside with hyphen | digit
    · exact absurd hyphen (by decide)
    · exact absurd digit (by decide)

theorem ProtocolVersion.quote_notMem_header (version : ProtocolVersion) :
    '"' ∉ version.header.toList := by
  cases version <;> decide

namespace SignatureFactor

theorem quote_notMem_header (factor : SignatureFactor) : '"' ∉ factor.header.toList := by
  cases factor <;> decide

theorem header_inj {factor factor' : SignatureFactor} :
    factor.header = factor'.header ↔ factor = factor' := by
  cases factor <;> cases factor' <;> decide

end SignatureFactor

namespace RequestSignature

variable {s t : RequestSignature}

/-- The parts of a signature that come from signing contain no quote. -/
structure Quoteless (s : RequestSignature) : Prop where
  nonce : '"' ∉ s.nonce.toList
  value : '"' ∉ s.value.toList
  version : '"' ∉ s.version.toList

/-! ## The parts that others chose -/

/-- What introduces the application key in a header. -/
def keyLabel : String := ", pa_application_key="

/-- Both names in a header, with the border between them. -/
def names (s : RequestSignature) : String :=
  s.activationId ++ ("\"" ++ keyLabel ++ "\"") ++ s.applicationKey

/-- The application key of `t` is what follows a border inside the application key of `s`, and what is
before it stands in the activation identifier of `t`. The border that divides `s` may share a quote with
the one inside. -/
inductive Recut (s t : RequestSignature) : Prop
  | between (moved : String)
      (id : t.activationId = s.activationId ++ ("\"" ++ keyLabel ++ "\"") ++ moved)
      (key : s.applicationKey = moved ++ ("\"" ++ keyLabel ++ "\"") ++ t.applicationKey)
  | shared (id : t.activationId = s.activationId ++ ("\"" ++ keyLabel))
      (key : s.applicationKey = keyLabel ++ "\"" ++ t.applicationKey)

theorem Recut.quotes (cut : s.Recut t) : '"' ∈ t.activationId.toList ∧ '"' ∈ s.applicationKey.toList := by
  cases cut with
  | between moved id key => simp [id, key]
  | shared id key => simp [id, key]

theorem quote_notMem_keyLabel : '"' ∉ keyLabel.toList := by decide

/-- The border of `t` is where that of `s` is, or some letters further on, in what is a cut of `s`. -/
theorem exists_gap_iff :
    (∃ gap, t.activationId.toList = s.activationId.toList ++ gap
      ∧ Header.border keyLabel.toList ++ s.applicationKey.toList
        = gap ++ (Header.border keyLabel.toList ++ t.applicationKey.toList)) ↔
      (s.activationId = t.activationId ∧ s.applicationKey = t.applicationKey) ∨ s.Recut t := by
  constructor
  · rintro ⟨gap, id, key⟩
    rcases (Header.border_append_eq_iff quote_notMem_keyLabel).1 key with
      ⟨rfl, rest⟩ | ⟨rfl, rest⟩ | ⟨moved, rfl, rest⟩
    · rw [List.append_nil] at id
      exact .inl ⟨String.toList_inj.1 id.symm, String.toList_inj.1 rest⟩
    · refine .inr (.shared (String.toList_inj.1 ?_) (String.toList_inj.1 ?_))
      · simp [id]
      · simp [rest]
    · refine .inr (.between (String.ofList moved) (String.toList_inj.1 ?_) (String.toList_inj.1 ?_))
      · simp [id, Header.border]
      · simp [rest, Header.border]
  · rintro (⟨id, key⟩ | ⟨moved, id, key⟩ | ⟨id, key⟩)
    · exact ⟨[], by simp [id], by simp [key]⟩
    · exact ⟨_, by rw [id, String.append_assoc, String.toList_append], by simp [key, Header.border]⟩
    · exact ⟨_, by rw [id, String.toList_append], by simp [key, Header.border]⟩

theorem names_eq_iff :
    s.names = t.names ↔
      (s.activationId = t.activationId ∧ s.applicationKey = t.applicationKey)
        ∨ s.Recut t ∨ t.Recut s := by
  have spelled (s : RequestSignature) : s.names.toList
      = s.activationId.toList ++ (Header.border keyLabel.toList ++ s.applicationKey.toList) := by
    simp [names, Header.border]
  -- Of two readings of one text, the one with the shorter identifier has its border first.
  rw [← String.toList_inj, spelled, spelled, List.append_eq_append_iff, exists_gap_iff, exists_gap_iff,
    eq_comm (a := t.activationId), eq_comm (a := t.applicationKey)]
  constructor
  · rintro ((same | cut) | (same | cut))
    · exact .inl same
    · exact .inr (.inl cut)
    · exact .inl same
    · exact .inr (.inr cut)
  · rintro (same | cut | cut)
    · exact .inl (.inl same)
    · exact .inl (.inr cut)
    · exact .inr (.inr cut)

/-! ## The whole header -/

theorem header_eq_names (s : RequestSignature) :
    s.header = "PowerAuth pa_activation_id=\"" ++ s.names ++ "\", pa_nonce=\"" ++ s.nonce
      ++ "\", pa_signature_type=\"" ++ s.factor.header ++ "\", pa_signature=\"" ++ s.value
      ++ "\", pa_version=\"" ++ s.version ++ "\"" := by
  have border : "\"" ++ keyLabel ++ "\"" = "\", pa_application_key=\"" := rfl
  have front : "PowerAuth pa_activation_id=\"" ++ s.names = "PowerAuth pa_activation_id=\""
      ++ s.activationId ++ "\", pa_application_key=\"" ++ s.applicationKey := by
    rw [names, border, String.append_assoc, String.append_assoc, String.append_assoc]
  rw [front]
  rfl

/-- **What a header settles**, read from its end. -/
theorem header_inj_iff (quoteless : s.Quoteless) (quoteless' : t.Quoteless) :
    s.header = t.header ↔
      s.names = t.names ∧ s.nonce = t.nonce ∧ s.factor = t.factor ∧ s.value = t.value
        ∧ s.version = t.version := by
  rw [header_eq_names, header_eq_names]
  constructor
  · intro same
    rw [String.append_left_inj] at same
    obtain ⟨same, version⟩ :=
      Header.part_inj "\", pa_version=" quoteless.version quoteless'.version same
    obtain ⟨same, value⟩ := Header.part_inj "\", pa_signature=" quoteless.value quoteless'.value same
    obtain ⟨same, factor⟩ := Header.part_inj "\", pa_signature_type="
      s.factor.quote_notMem_header t.factor.quote_notMem_header same
    obtain ⟨same, nonce⟩ := Header.part_inj "\", pa_nonce=" quoteless.nonce quoteless'.nonce same
    exact ⟨(String.append_right_inj _).1 same, nonce, SignatureFactor.header_inj.1 factor, value,
      version⟩
  · rintro ⟨names, nonce, factor, value, version⟩
    rw [names, nonce, factor, value, version]

/-! ## What sessions issue -/

/-- The signature with other names in it. -/
def renamed (s : RequestSignature) (id key : String) : RequestSignature :=
  { s with activationId := id, applicationKey := key }

/-- Some session signed some request with this result. -/
def Issued (s : RequestSignature) : Prop :=
  ∃ (session session' : Session) (request : Request) (keys : UnlockKeys) (a a' : Ambient),
    (Session.sign request keys s.factor).Gives session a s session' a'

end RequestSignature

namespace Session

variable {s s' : Session} {request : Request} {keys : UnlockKeys} {factor : SignatureFactor}
  {signature : RequestSignature} {a a' : Ambient} {id key : String}

/-- The session of an activation with another identifier, in an application with another key. -/
def renamed (s : Session) (id key : String) : Session :=
  { s with
    setup := { s.setup with applicationKey := key }
    stage := match s.stage with
      | .activated record => .activated { record with activationId := id }
      | stage => stage }

/-- **Neither name is signed**: under other names a session signs the same way. -/
theorem gives_sign_renamed (signed : (sign request keys factor).Gives s a signature s' a') :
    (sign request keys factor).Gives (s.renamed id key) a (signature.renamed id key)
      (s'.renamed id key) a' := by
  unfold sign at signed ⊢
  simp [and_assoc] at signed ⊢
  obtain ⟨record, active, counter, next, valid, online, found, unlocked, value, computed, rfl, rfl,
    rfl⟩ := signed
  -- What is signed has the secret of the application in it, and not its key.
  obtain ⟨stage, unblocked⟩ := activeRecord_eq_ok_iff.1 active
  have held : (s.renamed id key).activeRecord = .ok { record with activationId := id } :=
    activeRecord_eq_ok_iff.2 ⟨by rw [renamed, stage], unblocked⟩
  have reached : (s.renamed id key).Unlocks { record with activationId := id } keys factor found :=
    ⟨unlocked.valid, unlocked.reached⟩
  exact ⟨_, held, counter, next, valid, online, found, reached, value, computed, rfl, rfl, rfl⟩

/-- A session is as good under other names. -/
theorem Opened.renamed (opened : s.Opened) (named : key ≠ "") : (s.renamed id key).Opened := by
  obtain ⟨a, a', valid⟩ := opened
  refine ⟨a, a', ?_⟩
  unfold Setup.validate at valid ⊢
  simp [Setup.gives_decodeMaster] at valid ⊢
  exact ⟨⟨named, valid.1.2⟩, valid.2⟩

theorem exists_signed_counting (a : Ambient) :
    ∃ signature s' a', (sign ⟨"POST", "/payment", [], none⟩
      { possession := some SymmetricKey.ones.bytes } .possession).Gives (counting 5) a signature s'
        a' := by
  obtain ⟨record, active, counter, unlocks⟩ := unlocks_counting 5
  have next : record.counter.next = .ok (.linear 6) := by
    rw [counter]
    rfl
  have valid : (⟨"POST", "/payment", [], none⟩ : Request).validate = .ok () := rfl
  obtain ⟨signature, a', signed⟩ := exists_gives_sign active next valid rfl unlocks a
  exact ⟨signature, _, a', signed⟩

end Session

namespace RequestSignature

variable {s t : RequestSignature} {id key : String}

theorem issued_of_gives {session session' : Session} {request : Request} {keys : UnlockKeys}
    {factor : SignatureFactor} {a a' : Ambient}
    (signed : (Session.sign request keys factor).Gives session a s session' a') : s.Issued := by
  obtain ⟨record, next, signs, -⟩ := Session.signs_of_gives signed
  obtain ⟨-, -, -, rfl⟩ := signs.header
  exact ⟨_, _, _, _, _, _, signed⟩

theorem Issued.renamed (issued : s.Issued) : (s.renamed id key).Issued := by
  obtain ⟨session, session', request, keys, a, a', signed⟩ := issued
  exact ⟨_, _, request, keys, a, a', Session.gives_sign_renamed signed⟩

theorem Issued.quoteless (issued : s.Issued) : s.Quoteless := by
  obtain ⟨session, session', request, keys, a, a', signed⟩ := issued
  obtain ⟨record, next, signs, -⟩ := Session.signs_of_gives signed
  obtain ⟨nonce, drawn⟩ := signs.nonce
  obtain ⟨found, -, computed⟩ := signs.value
  obtain ⟨-, -, rendered⟩ := Signature.compute_eq_ok_iff.1 computed
  refine ⟨?_, ?_, ?_⟩
  · rw [drawn]
    exact Header.quote_notMem_encode _
  · rw [rendered]
    exact (Signature.hasComponents_render _ _).quote_notMem
  · rw [signs.header.1]
    exact ProtocolVersion.quote_notMem_header _

/-- **A header settles the signature it was made of**, whoever signed, and whatever the names of the
activation and of the application are, up to a cut at a border inside of them. Version, nonce, factor
and value are settled in any case, and every cut there can be leaves the header as it is. If neither
name contains a quote, the header is that of no other signature. -/
theorem header_settles :
    (∀ s : RequestSignature, s.Issued → ∀ id key, (s.renamed id key).Issued)
    ∧ ∀ s t : RequestSignature, s.Issued → t.Issued →
      (s.header = t.header ↔
        s.version = t.version ∧ s.nonce = t.nonce ∧ s.factor = t.factor ∧ s.value = t.value
          ∧ ((s.activationId = t.activationId ∧ s.applicationKey = t.applicationKey)
            ∨ s.Recut t ∨ t.Recut s))
      ∧ ('"' ∉ s.activationId.toList → '"' ∉ s.applicationKey.toList → s.header = t.header →
        s = t) := by
  refine ⟨fun s issued _ _ => issued.renamed, fun s t issued issued' => ?_⟩
  have settled := header_inj_iff issued.quoteless issued'.quoteless
  rw [names_eq_iff] at settled
  refine ⟨settled.trans ?_, fun id key same => ?_⟩
  · constructor
    · rintro ⟨names, nonce, factor, value, version⟩
      exact ⟨version, nonce, factor, value, names⟩
    · rintro ⟨version, nonce, factor, value, names⟩
      exact ⟨names, nonce, factor, value, version⟩
  · obtain ⟨names, nonce, factor, value, version⟩ := settled.1 same
    rcases names with ⟨ids, keys⟩ | cut | cut
    · cases s
      cases t
      cases ids
      cases keys
      cases nonce
      cases factor
      cases value
      cases version
      rfl
    · exact absurd cut.quotes.2 key
    · exact absurd cut.quotes.1 id

/-- A signature under plain names shares its header with no other. Under names that fit, where two borders
share a quote, it does. -/
theorem header_settles_counting :
    ∃ s : RequestSignature, s.Issued
      ∧ (∀ t : RequestSignature, t.Issued → (s.renamed "ACT" "KEY").header = t.header →
        s.renamed "ACT" "KEY" = t)
      ∧ (s.renamed "ACT" ", pa_application_key=\"KEY").header
        = (s.renamed "ACT\", pa_application_key=" "KEY").header := by
  obtain ⟨closed, settles⟩ := header_settles
  obtain ⟨s, _, _, signed⟩ := Session.exists_signed_counting ⟨⟨[], 7⟩, 0, []⟩
  have issued := issued_of_gives signed
  have plain : '"' ∉ "ACT".toList ∧ '"' ∉ "KEY".toList := by decide
  refine ⟨s, issued, fun t issued' => ?_, ?_⟩
  · exact (settles _ t (closed s issued _ _) issued').2 plain.1 plain.2
  · refine (settles _ _ (closed s issued _ _) (closed s issued _ _)).1.2 ⟨rfl, rfl, rfl, rfl, ?_⟩
    exact .inr (.inl (.shared rfl rfl))

/-- **A header does not settle the names of its signature**: two sessions of different activations, each
signing one request, make the same header. -/
theorem header_not_unambiguous :
    let s := (Session.counting 5).renamed "ACT" "x\", pa_application_key=\"y"
    let t := (Session.counting 5).renamed "ACT\", pa_application_key=\"x" "y"
    let request : Request := ⟨"POST", "/payment", [], none⟩
    let keys : UnlockKeys := { possession := some SymmetricKey.ones.bytes }
    let a : Ambient := ⟨⟨[], 7⟩, 0, []⟩
    s.Opened ∧ t.Opened
    ∧ ∃ signature signature' s' t' a',
      (Session.sign request keys .possession).Gives s a signature s' a'
      ∧ (Session.sign request keys .possession).Gives t a signature' t' a'
      ∧ signature.header = signature'.header
      ∧ signature.activationId ≠ signature'.activationId
      ∧ signature.applicationKey ≠ signature'.applicationKey := by
  intro s t request keys a
  have opened : (Session.counting 5).Opened := ⟨a, _, Session.validates_counting 5 a⟩
  obtain ⟨signature, s', a', signed⟩ := Session.exists_signed_counting a
  refine ⟨opened.renamed (by decide), opened.renamed (by decide), _, _, _, _, a',
    Session.gives_sign_renamed signed, Session.gives_sign_renamed signed, ?_, ?_, ?_⟩
  · rw [header_eq_names, header_eq_names]
    rfl
  · show "ACT" ≠ "ACT\", pa_application_key=\"x"
    decide
  · show "x\", pa_application_key=\"y" ≠ "y"
    decide

end RequestSignature

end DeviceAuth
