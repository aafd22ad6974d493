import Mathlib.Data.Finset.Card
import DeviceAuth.Proofs.Token.Header

/-!
# Token stores and the handles of their tokens

Any number of stores is opened, used and closed, in any order, while handles are kept by whoever got
them and asked for headers at any time. What a store has to hold then is said by what was called, not
by the store: the last call that put a name's data there, or took it away.

`TokenStores.Tracks` says that every open store holds just that. Every call preserves it, and what a
run guarantees (`TokenStores.stores_and_handles`) is read off it.
-/

set_option autoImplicit false

namespace DeviceAuth

/-! ## A store as a map -/

namespace TokenStore

variable {store : TokenStore} {data : TokenData} {name other : String}

/-- No name is used twice, and no data is incomplete. -/
structure Tidy (store : TokenStore) : Prop where
  distinct : (store.tokens.map TokenData.name).Nodup
  valid : ∀ data ∈ store.tokens, data.isValid = true

theorem mem_of_get? (found : store.get? name = some data) : data ∈ store.tokens ∧ data.name = name :=
  ⟨List.mem_of_find?_eq_some found, by simpa using List.find?_some found⟩

theorem get?_empty : ({} : TokenStore).get? name = none := rfl

theorem get?_clear : store.clear.get? name = none := rfl

theorem get?_erase (name other : String) :
    (store.erase name).get? other = if other = name then none else store.get? other := by
  unfold get? erase
  rw [List.find?_filter]
  split
  · simp_all
  · refine congrArg (store.tokens.find? ·) (funext fun data => ?_)
    grind

theorem get?_insert (data : TokenData) (name : String) :
    (store.insert data).get? name = if name = data.name then some data else store.get? name := by
  have rest : (store.erase data.name).get? name = _ := get?_erase data.name name
  unfold get? at rest ⊢
  unfold insert
  rw [List.find?_cons]
  grind

theorem get?_isSome_iff : (store.get? name).isSome = true ↔ name ∈ store.tokens.map TokenData.name := by
  unfold get?
  simp

theorem Tidy.empty : ({} : TokenStore).Tidy := ⟨List.nodup_nil, by simp⟩

theorem Tidy.clear : store.clear.Tidy := ⟨List.nodup_nil, by simp [TokenStore.clear]⟩

theorem Tidy.erase (tidy : store.Tidy) (name : String) : (store.erase name).Tidy :=
  ⟨tidy.distinct.sublist (List.filter_sublist.map _),
    fun data h => tidy.valid data (List.mem_of_mem_filter h)⟩

theorem Tidy.insert (tidy : store.Tidy) (complete : data.isValid = true) : (store.insert data).Tidy := by
  obtain ⟨distinct, valid⟩ := tidy.erase data.name
  constructor
  · refine List.nodup_cons.2 ⟨?_, distinct⟩
    simp [TokenStore.erase]
  · intro other h
    rcases List.mem_cons.1 h with rfl | h
    · exact complete
    · exact valid other h

/-- The size is the number of names that have data. -/
theorem Tidy.size_eq (tidy : store.Tidy) :
    ∃ names : Finset String,
      (∀ name, name ∈ names ↔ (store.get? name).isSome = true) ∧ store.size = names.card := by
  refine ⟨(store.tokens.map TokenData.name).toFinset, ?_, ?_⟩
  · intro name
    rw [get?_isSome_iff, List.mem_toFinset]
  · rw [List.toFinset_card_of_nodup tidy.distinct, List.length_map]
    rfl

end TokenStore

namespace TokenStores

variable {all : TokenStores} {number other : Nat}

theorem get?_openStore (all : TokenStores) (number : Nat) :
    all.openStore.2.get? number = if number = all.count then some {} else all.get? number := by
  unfold openStore get?
  simp only [List.lookup_cons]
  grind

theorem get?_close (all : TokenStores) (number other : Nat) :
    (all.close number).get? other = if other = number then none else all.get? other := by
  unfold close get?
  dsimp only
  induction all.stores with
  | nil => simp
  | cons entry stores ih => grind

theorem get?_modify (all : TokenStores) (number other : Nat) (f : TokenStore → TokenStore) :
    (all.modify number f).get? other
      = if other = number then (all.get? other).map f else all.get? other := by
  unfold modify get?
  dsimp only
  induction all.stores with
  | nil => simp
  | cons entry stores ih => grind

/-! ## Runs -/

/-- Something called on the stores or on a handle. -/
inductive Action where
  | openStore
  | close (number : Nat)
  | put (number : Nat) (data : TokenData)
  | find (number : Nat) (name : String)
  | remove (number : Nat) (name : String)
  | clear (number : Nat)
  | setAvailable (number : Nat) (available : Bool)
  | header (token : Token)

inductive Reply where
  | done
  | opened (number : Nat)
  | handle (token : Token)
  | missing
  | made (header : Header)

def Action.perform : Action → Change TokenStores Reply
  | openStore => do
    let (number, all) := (← Change.object).openStore
    Change.become all
    return .opened number
  | close number => do
    Change.become ((← Change.object).close number)
    return .done
  | put number data => .handle <$> TokenStores.put number data
  | find number name => do
    match (← Change.object).token? number name with
    | some token => return .handle token
    | none => return .missing
  | remove number name => (fun _ => .done) <$> TokenStores.remove number name
  | clear number => do
    Change.become ((← Change.object).modify number TokenStore.clear)
    return .done
  | setAvailable number available => do
    Change.become ((← Change.object).modify number fun store => { store with available })
    return .done
  | header token => do
    let made ← token.header (← Change.object)
    return .made made

structure Call where
  action : Action
  ambient : Ambient

structure Turn where
  before : TokenStores
  action : Action
  result : Except Failure Reply
  after : TokenStores

def Call.turn (call : Call) (all : TokenStores) : Turn :=
  let ended := call.action.perform.result all call.ambient
  ⟨all, call.action, ended.1.1, ended.1.2⟩

def history : TokenStores → List Call → List Turn
  | _, [] => []
  | all, call :: calls => call.turn all :: history (call.turn all).after calls

def after : TokenStores → List Call → TokenStores
  | all, [] => all
  | all, call :: calls => after (call.turn all).after calls

theorem after_concat (all : TokenStores) (calls : List Call) (call : Call) :
    all.after (calls ++ [call]) = (call.turn (all.after calls)).after := by
  induction calls generalizing all with
  | nil => rfl
  | cons first calls ih => exact ih (first.turn all).after

theorem history_concat (all : TokenStores) (calls : List Call) (call : Call) :
    all.history (calls ++ [call]) = all.history calls ++ [call.turn (all.after calls)] := by
  induction calls generalizing all with
  | nil => rfl
  | cons first calls ih => exact congrArg (first.turn all :: ·) (ih (first.turn all).after)

/-! ## What some turns leave behind -/

/-- What the last turn with a say in it makes of something. -/
def latest {β : Type} (effect : Turn → Option β) (first : β) (turns : List Turn) : β :=
  turns.foldl (fun now turn => (effect turn).getD now) first

@[simp] theorem latest_nil {β : Type} (effect : Turn → Option β) (first : β) :
    latest effect first [] = first := rfl

@[simp] theorem latest_concat {β : Type} (effect : Turn → Option β) (first : β) (turns : List Turn)
    (turn : Turn) :
    latest effect first (turns ++ [turn]) = (effect turn).getD (latest effect first turns) := by
  unfold latest
  rw [List.foldl_append]
  rfl

/-- A turn opens or closes a store. -/
def Turn.opens (number : Nat) (turn : Turn) : Option Bool :=
  match turn.action, turn.result with
  | .openStore, .ok (.opened fresh) => if fresh = number then some true else none
  | .close closed, _ => if closed = number then some false else none
  | _, _ => none

/-- A turn allows or forbids a store's tokens to make headers. -/
def Turn.allows (number : Nat) (turn : Turn) : Option Bool :=
  match turn.action, turn.result with
  | .openStore, .ok (.opened fresh) => if fresh = number then some true else none
  | .setAvailable changed available, _ => if changed = number then some available else none
  | _, _ => none

/-- A turn puts data under a name of a store, or takes it away. -/
def Turn.stores (number : Nat) (name : String) (turn : Turn) : Option (Option TokenData) :=
  match turn.action, turn.result with
  | .openStore, .ok (.opened fresh) => if fresh = number then some none else none
  | .put changed data, .ok _ => if changed = number ∧ data.name = name then some (some data) else none
  | .remove changed removed, _ => if changed = number ∧ removed = name then some none else none
  | .clear changed, _ => if changed = number then some none else none
  | _, _ => none

/-- Whether a store is open after some turns. -/
def isOpen (number : Nat) : List Turn → Bool := latest (Turn.opens number) false

/-- Whether a store's tokens may make headers after some turns. -/
def isAllowed (number : Nat) : List Turn → Bool := latest (Turn.allows number) false

/-- The data last put under a name of a store, unless it was taken away since. -/
def lastStored (number : Nat) (name : String) : List Turn → Option TokenData :=
  latest (Turn.stores number name) none

/-! ## One call -/

variable {action : Action} {result : Except Failure Reply} {all' : TokenStores} {turns : List Turn}

/-- What a call does. -/
inductive Step (all : TokenStores) : Action → Except Failure Reply → TokenStores → Prop
  | opened : Step all .openStore (.ok (.opened all.count)) all.openStore.2
  | closed {number : Nat} : Step all (.close number) (.ok .done) (all.close number)
  | stored {number : Nat} {data : TokenData} (complete : data.isValid = true) :
    Step all (.put number data) (.ok (.handle ⟨data, number⟩))
      (all.modify number fun store => store.insert data)
  | refused {number : Nat} {data : TokenData} (incomplete : data.isValid = false) :
    Step all (.put number data) (.error (.wrongParameter .tokenIncomplete)) all
  | found {number : Nat} {name : String} {token : Token}
      (known : all.token? number name = some token) :
    Step all (.find number name) (.ok (.handle token)) all
  | missing {number : Nat} {name : String} (unknown : all.token? number name = none) :
    Step all (.find number name) (.ok .missing) all
  | removed {number : Nat} {name : String} :
    Step all (.remove number name) (.ok .done) (all.modify number fun store => store.erase name)
  | cleared {number : Nat} : Step all (.clear number) (.ok .done) (all.modify number TokenStore.clear)
  | availableSet {number : Nat} {available : Bool} :
    Step all (.setAvailable number available) (.ok .done)
      (all.modify number fun store => { store with available })
  | made {token : Token} {header : Header} (ready : token.canMakeHeader all = true) :
    Step all (.header token) (.ok (.made header)) all
  | barred {token : Token} {e : Failure} (unready : token.canMakeHeader all = false) :
    Step all (.header token) (.error e) all

theorem turn_eq {a a' : Ambient} (ended : action.perform.result all a = ((result, all'), a')) :
    Call.turn ⟨action, a⟩ all = ⟨all, action, result, all'⟩ := by
  unfold Call.turn
  rw [ended]

theorem takes (call : Call) (all : TokenStores) :
    Step all call.action (call.turn all).result (call.turn all).after := by
  obtain ⟨action, a⟩ := call
  cases action with
  | openStore => exact .opened
  | close number => exact .closed
  | put number data =>
    cases complete : data.isValid with
    | false =>
      have ended : (Action.perform (.put number data)).result all a
          = ((.error (.wrongParameter .tokenIncomplete), all), a) := by
        refine Change.result_map_error ?_ _
        unfold TokenStores.put
        simp [complete]
        rfl
      rw [turn_eq ended]
      exact .refused complete
    | true =>
      have ended : ∃ a', (Action.perform (.put number data)).Gives all a (.handle ⟨data, number⟩)
          (all.modify number fun store => store.insert data) a' := by
        simp [Action.perform, TokenStores.put, complete]
      obtain ⟨a', ended⟩ := ended
      rw [turn_eq ended]
      exact .stored complete
  | find number name =>
    cases known : all.token? number name with
    | none =>
      have ended : (Action.perform (.find number name)).Gives all a .missing all a := by
        simp [Action.perform, known]
      rw [turn_eq ended]
      exact .missing known
    | some token =>
      have ended : (Action.perform (.find number name)).Gives all a (.handle token) all a := by
        simp [Action.perform, known]
      rw [turn_eq ended]
      exact .found known
  | remove number name =>
    have ended : ∃ a', (Action.perform (.remove number name)).Gives all a .done
        (all.modify number fun store => store.erase name) a' := by
      cases known : ((all.get? number).map fun store => store.contains name).getD false <;>
        simp [Action.perform, TokenStores.remove, known]
    obtain ⟨a', ended⟩ := ended
    rw [turn_eq ended]
    exact .removed
  | clear number => exact .cleared
  | setAvailable number available => exact .availableSet
  | header token =>
    have ended : (Action.perform (.header token)).result all a
        = (((((token.header all).result a).1.map .made), all), ((token.header all).result a).2) := by
      unfold Action.perform
      rw [Change.result_object_bind, Change.result_bind, Change.result_liftM]
      rcases (token.header all).result a with ⟨_ | _, _⟩ <;> rfl
    rw [turn_eq ended]
    rcases made : (token.header all).result a with ⟨e | header, a'⟩
    · refine .barred (Bool.eq_false_iff.2 fun ready => ?_)
      cases made.symm.trans (Token.gives_header.2 ⟨ready, rfl, rfl⟩)
    · exact .made (Token.gives_header.1 made).1

/-! ## A whole run -/

/-- A store holds what some turns left it with. -/
structure Agrees (store : TokenStore) (number : Nat) (turns : List Turn) : Prop where
  tidy : store.Tidy
  available : store.available = isAllowed number turns
  get? : ∀ name, store.get? name = lastStored number name turns

/-- The stores are those that some turns left behind. -/
structure Tracks (all : TokenStores) (turns : List Turn) : Prop where
  opens : ∀ number, (all.get? number).isSome = isOpen number turns
  agrees : ∀ number store, all.get? number = some store → Agrees store number turns
  fresh : ∀ turn ∈ turns, ∀ number, turn.result = .ok (.opened number) → number < all.count

variable {store store' : TokenStore} {turn : Turn}

theorem Agrees.concat (agrees : Agrees store number turns) (tidy : store'.Tidy)
    (available : store'.available = (turn.allows number).getD store.available)
    (get? : ∀ name, store'.get? name = (turn.stores number name).getD (store.get? name)) :
    Agrees store' number (turns ++ [turn]) := by
  refine ⟨tidy, ?_, fun name => ?_⟩
  · rw [isAllowed, latest_concat, available, agrees.available]
    rfl
  · rw [lastStored, latest_concat, get?, agrees.get?]
    rfl

/-- A turn without a say in a store leaves it as it was. -/
theorem Agrees.idle (agrees : Agrees store number turns) (allows : turn.allows number = none)
    (stores : ∀ name, turn.stores number name = none) : Agrees store number (turns ++ [turn]) :=
  agrees.concat agrees.tidy (by rw [allows, Option.getD_none])
    fun name => by rw [stores, Option.getD_none]

/-- A turn that only changes what is in one store. -/
theorem Tracks.modify {f : TokenStore → TokenStore} (t : Tracks all turns)
    (opens : ∀ number, turn.opens number = none)
    (opened : ∀ number, turn.result ≠ .ok (.opened number))
    (allows : ∀ other, other ≠ number → turn.allows other = none)
    (stores : ∀ other name, other ≠ number → turn.stores other name = none)
    (changed : ∀ store, Agrees store number turns → Agrees (f store) number (turns ++ [turn])) :
    Tracks (all.modify number f) (turns ++ [turn]) := by
  constructor
  · intro other
    rw [isOpen, latest_concat, opens, get?_modify]
    split
    · rw [Option.isSome_map]
      exact t.opens other
    · exact t.opens other
  · intro other store held
    rw [get?_modify] at held
    split at held
    · next same =>
      obtain ⟨old, known, rfl⟩ := Option.map_eq_some_iff.1 held
      subst same
      exact changed old (t.agrees other old known)
    · next differs =>
      exact (t.agrees other store held).idle (allows other differs) (stores other · differs)
  · intro earlier h other made
    rcases List.mem_append.1 h with h | h
    · exact t.fresh earlier h other made
    · obtain rfl := List.mem_singleton.1 h
      exact absurd made (opened other)

/-- A turn without a say in any store. -/
theorem Tracks.idle (t : Tracks all turns) (opens : ∀ number, turn.opens number = none)
    (opened : ∀ number, turn.result ≠ .ok (.opened number))
    (allows : ∀ number, turn.allows number = none)
    (stores : ∀ number name, turn.stores number name = none) : Tracks all (turns ++ [turn]) := by
  constructor
  · intro number
    rw [isOpen, latest_concat, opens]
    exact t.opens number
  · intro number store held
    exact (t.agrees number store held).idle (allows number) (stores number)
  · intro earlier h number made
    rcases List.mem_append.1 h with h | h
    · exact t.fresh earlier h number made
    · obtain rfl := List.mem_singleton.1 h
      exact absurd made (opened number)

theorem Tracks.step (t : Tracks all turns) (s : Step all action result all') :
    Tracks all' (turns ++ [⟨all, action, result, all'⟩]) := by
  cases s with
  | opened =>
    constructor
    · intro number
      rw [isOpen, latest_concat, get?_openStore]
      have before := t.opens number
      rw [isOpen] at before
      simp only [Turn.opens]
      grind
    · intro number store held
      rw [get?_openStore] at held
      split at held
      · next same =>
        cases held
        subst same
        refine ⟨.empty, ?_, fun name => ?_⟩
        · simp [isAllowed, Turn.allows]
        · simp [lastStored, Turn.stores, TokenStore.get?_empty]
      · next differs =>
        refine (t.agrees number store held).idle ?_ ?_ <;> grind [Turn.allows, Turn.stores]
    · intro earlier h number made
      rcases List.mem_append.1 h with h | h
      · exact Nat.lt_succ_of_lt (t.fresh earlier h number made)
      · obtain rfl := List.mem_singleton.1 h
        cases made
        exact Nat.lt_succ_self _
  | closed =>
    constructor
    · intro number
      rw [isOpen, latest_concat, get?_close]
      have before := t.opens number
      rw [isOpen] at before
      simp only [Turn.opens]
      grind
    · intro number store held
      rw [get?_close] at held
      split at held
      · cases held
      · exact (t.agrees number store held).idle rfl fun _ => rfl
    · intro earlier h number made
      rcases List.mem_append.1 h with h | h
      · exact t.fresh earlier h number made
      · obtain rfl := List.mem_singleton.1 h
        cases made
  | stored complete =>
    refine t.modify (fun _ => rfl) (by simp) (fun _ _ => rfl) (by grind [Turn.stores]) fun store h => ?_
    refine h.concat (h.tidy.insert complete) rfl fun name => ?_
    rw [TokenStore.get?_insert]
    grind [Turn.stores]
  | removed =>
    refine t.modify (fun _ => rfl) (by simp) (fun _ _ => rfl) (by grind [Turn.stores]) fun store h => ?_
    refine h.concat (h.tidy.erase _) rfl fun name => ?_
    rw [TokenStore.get?_erase]
    grind [Turn.stores]
  | cleared =>
    refine t.modify (fun _ => rfl) (by simp) (fun _ _ => rfl) (by grind [Turn.stores]) fun store h => ?_
    refine h.concat .clear rfl fun name => ?_
    rw [TokenStore.get?_clear]
    simp [Turn.stores]
  | availableSet =>
    refine t.modify (fun _ => rfl) (by simp) (by grind [Turn.allows]) (fun _ _ _ => rfl)
      fun store h => ?_
    exact h.concat ⟨h.tidy.distinct, h.tidy.valid⟩ (by simp [Turn.allows]) fun _ => rfl
  | refused | found | missing | made | barred =>
    exact t.idle (fun _ => rfl) (by simp) (fun _ => rfl) (fun _ _ => rfl)

theorem Tracks.empty : Tracks {} [] :=
  ⟨fun _ => rfl, fun _ _ held => (Option.not_mem_none _ held).elim, by simp⟩

theorem tracks (calls : List Call) : Tracks (after {} calls) (history {} calls) := by
  -- The last turn decides what is stored, so the run is taken apart at its end.
  induction calls using List.reverseRecOn with
  | nil => exact .empty
  | append_singleton calls call ih =>
    rw [after_concat, history_concat]
    exact ih.step (takes call _)

/-- A turn is one of those that some calls make, and `earlier` are the turns before it. -/
def Occurs (calls : List Call) (earlier : List Turn) (turn : Turn) : Prop :=
  ∃ before call rest, calls = before ++ call :: rest
    ∧ earlier = history {} before ∧ turn = call.turn (after {} before)

variable {calls : List Call} {earlier : List Turn}

theorem Occurs.takes (occurs : Occurs calls earlier turn) :
    Tracks turn.before earlier ∧ Step turn.before turn.action turn.result turn.after := by
  obtain ⟨before, call, rest, -, rfl, rfl⟩ := occurs
  exact ⟨tracks before, TokenStores.takes call _⟩

theorem exists_occurs (h : turn ∈ history {} calls) : ∃ earlier, Occurs calls earlier turn := by
  induction calls using List.reverseRecOn with
  | nil => cases h
  | append_singleton calls call ih =>
    rw [history_concat, List.mem_append, List.mem_singleton] at h
    rcases h with h | rfl
    · obtain ⟨earlier, before, first, rest, rfl, same, made⟩ := ih h
      exact ⟨earlier, before, first, rest ++ [call], by simp, same, made⟩
    · exact ⟨_, calls, call, [], rfl, rfl, rfl⟩

theorem Step.eq_of_error {e : Failure} (s : Step all action (.error e) all') : all' = all := by
  cases s <;> rfl

theorem Step.of_opened (s : Step all action (.ok (.opened number)) all') : number = all.count := by
  cases s
  rfl

theorem Step.of_put {data : TokenData} (s : Step all (.put number data) result all') :
    result = if data.isValid then .ok (.handle ⟨data, number⟩)
      else .error (.wrongParameter .tokenIncomplete) := by
  cases s with
  | stored complete => rw [if_pos complete]
  | refused incomplete => rw [incomplete, if_neg Bool.false_ne_true]

theorem Step.of_find {name : String} (s : Step all (.find number name) result all') :
    result = match all.token? number name with
      | some token => .ok (.handle token)
      | none => .ok .missing := by
  cases s with
  | found known => rw [known]
  | missing unknown => rw [unknown]

theorem token?_of_agrees {name : String} (held : all.get? number = some store)
    (agrees : Agrees store number turns) :
    all.token? number name = (lastStored number name turns).map fun data => ⟨data, number⟩ := by
  rw [← agrees.get? name]
  cases found : store.get? name <;> simp [token?, held, found]

/-- No handle is to incomplete data. -/
theorem Tracks.isValid {token : Token} (t : Tracks all turns)
    (s : Step all action (.ok (.handle token)) all') : token.data.isValid = true := by
  cases s with
  | stored complete => exact complete
  | @found number name _ known =>
    obtain ⟨store, held, data, found, rfl⟩ : ∃ store, all.get? number = some store
        ∧ ∃ data, store.get? name = some data ∧ ⟨data, number⟩ = token := by
      simpa [token?, Option.bind_eq_some_iff] using known
    exact (t.agrees number store held).tidy.valid data (TokenStore.mem_of_get? found).1

/-- A handle can make headers while its store is open and allows it. -/
theorem Tracks.canMakeHeader {token : Token} (t : Tracks all turns) (valid : token.data.isValid = true) :
    token.canMakeHeader all = (isOpen token.store turns && isAllowed token.store turns) := by
  unfold Token.canMakeHeader
  rw [valid, ← t.opens]
  cases held : all.get? token.store with
  | none => rfl
  | some store => simp [(t.agrees token.store store held).available]

/-- **Stores and handles under any calls.** From no store on, whatever is called and in whatever order:
a store is open from its opening to its closing, and no number is given twice. An open store is a map
from names to the data last stored under them, and its size is the number of those names. Data is
stored exactly when it is complete, and a call that fails changes nothing. A handle holds what was
stored, or what was found under the name at that time, and it is always to complete data. However long
ago it was made, it makes headers while its store is open and allows it, just as it says, and a header
proves the handle's own data, with any nonce and at any time. -/
theorem stores_and_handles (calls : List Call) :
    let turns := history {} calls
    let all := after {} calls
    (∀ number, (all.get? number).isSome = isOpen number turns)
    ∧ (∀ number store, all.get? number = some store →
      store.available = isAllowed number turns
      ∧ (∀ name, store.get? name = lastStored number name turns)
      ∧ ∃ names : Finset String,
        (∀ name, name ∈ names ↔ (lastStored number name turns).isSome = true)
        ∧ store.size = names.card)
    ∧ (∀ earlier turn, Occurs calls earlier turn →
      (∀ e, turn.result = .error e → turn.after = turn.before)
      ∧ (∀ number, turn.result = .ok (.opened number) →
        ∀ other ∈ earlier, other.result ≠ .ok (.opened number))
      ∧ (∀ number data, turn.action = .put number data →
        turn.result = if data.isValid then .ok (.handle ⟨data, number⟩)
          else .error (.wrongParameter .tokenIncomplete))
      ∧ ∀ number name, turn.action = .find number name → isOpen number earlier = true →
        turn.result = match lastStored number name earlier with
          | some data => .ok (.handle ⟨data, number⟩)
          | none => .ok .missing)
    ∧ ∀ turn ∈ turns, ∀ token, turn.result = .ok (.handle token) →
      token.data.isValid = true
      ∧ token.canMakeHeader all = (isOpen token.store turns && isAllowed token.store turns)
      ∧ (∀ a, (∃ header a', (token.header all).Gives a header a') ↔ token.canMakeHeader all = true)
      ∧ (∀ a header a', (token.header all).Gives a header a' →
        ∃ nonce parts, (Core.draw 16).Gives a nonce a' ∧ header.Proves token.data nonce a.clock parts)
      ∧ ∀ (nonce : Octets 16) time,
        ∃ parts, (Token.headerFor token.data nonce.bytes time).Proves token.data nonce time parts := by
  intro turns all
  have now : Tracks all turns := tracks calls
  refine ⟨now.opens, ?_, ?_, ?_⟩
  · intro number store held
    obtain ⟨tidy, available, stored⟩ := now.agrees number store held
    obtain ⟨names, known, size⟩ := tidy.size_eq
    refine ⟨available, stored, names, fun name => ?_, size⟩
    rw [known, stored]
  · intro earlier turn occurs
    obtain ⟨before, step⟩ := occurs.takes
    refine ⟨?_, ?_, ?_, ?_⟩
    · intro e failed
      rw [failed] at step
      exact step.eq_of_error
    · intro number opened other h again
      rw [opened] at step
      exact absurd (before.fresh other h number again) (step.of_opened ▸ lt_irrefl _)
    · intro number data asked
      rw [asked] at step
      exact step.of_put
    · intro number name asked isOpen
      rw [asked] at step
      rw [step.of_find]
      rw [← before.opens] at isOpen
      obtain ⟨store, held⟩ := Option.isSome_iff_exists.1 isOpen
      rw [token?_of_agrees held (before.agrees number store held)]
      cases lastStored number name earlier <;> rfl
  · intro turn h token given
    obtain ⟨earlier, occurs⟩ := exists_occurs h
    obtain ⟨before, step⟩ := occurs.takes
    rw [given] at step
    have valid := before.isValid step
    refine ⟨valid, now.canMakeHeader valid, fun a => ?_, ?_, ?_⟩
    · simp [Token.gives_header]
    · intro a header a' made
      obtain ⟨-, rfl, rfl⟩ := Token.gives_header.1 made
      obtain ⟨parts, proves⟩ := Header.proves_headerFor token.data (a.entropy.draw 16).1 a.clock
      exact ⟨_, parts, Core.gives_draw.2 ⟨rfl, rfl⟩, proves⟩
    · intro nonce time
      exact Header.proves_headerFor token.data nonce time

/-- A handle makes headers after its data was removed, and none after its store was closed. -/
theorem handle_of_removed :
    let a : Ambient := ⟨⟨[], 7⟩, 1500000000000, []⟩
    let token : Token := ⟨⟨"balance", "d6561669", [0x33]⟩, 0⟩
    let calls : List Call :=
      [⟨.openStore, a⟩, ⟨.put 0 token.data, a⟩, ⟨.remove 0 "balance", a⟩]
    (∃ header a', (token.header (after {} calls)).Gives a header a')
      ∧ token.canMakeHeader (after {} (calls ++ [⟨.close 0, a⟩])) = false := by
  intro a token calls
  let stored := Call.turn ⟨.put 0 token.data, a⟩ (after {} [⟨.openStore, a⟩])
  obtain ⟨-, -, each, handles⟩ := stores_and_handles calls
  obtain ⟨-, -, put, -⟩ := each _ stored ⟨[⟨.openStore, a⟩], _, [⟨.remove 0 "balance", a⟩], rfl, rfl, rfl⟩
  have given : stored.result = .ok (.handle token) := put 0 token.data rfl
  constructor
  · obtain ⟨-, able, makes, -⟩ := handles stored (List.mem_cons_of_mem _ List.mem_cons_self) token given
    exact (makes a).2 (able.trans rfl)
  · obtain ⟨-, -, -, handles⟩ := stores_and_handles (calls ++ [⟨.close 0, a⟩])
    obtain ⟨-, able, -⟩ := handles stored (List.mem_cons_of_mem _ List.mem_cons_self) token given
    exact able.trans rfl

end TokenStores

end DeviceAuth
