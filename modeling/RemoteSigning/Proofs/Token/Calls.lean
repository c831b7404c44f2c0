import RemoteSigning.Token.Card

/-!
# Every call at a card module

What is recorded of a task at a card module leaves out the call for the slots and the one for the objects on a token,
and it does not say what a call ended with. Here a task is followed call by call, each with the fault that it ended
with, if there was one. What is recorded of these calls is the record of the task, and the result is the same.

- `CardModule.readRun`, `CardModule.signRun` are the two tasks of a card, call by call; `told_readRun`, `told_signRun`:
  they are `CardModule.readCertificate` and `CardModule.signHash`;
- `CardRun.Surfaces`: a fault of a call is what its task ends with; `surfaces_readRun`, `surfaces_signRun`;
- `Released`: no card session is left open; `released_sessionRun`: not by a task that only uses a token;
- `CardModule.sessions_released`: nor by the tasks of a card.
-/

namespace RemoteSigning

/-! ## Calls -/

inductive CardCall where
  | load (library : Text)
  | getSlots
  | getToken (slot : Int)
  | open (slot : Int) (login : Login)
  /-- The objects on a token are listed and read. -/
  | getObjects (slot : Int)
  | getKey (slot : Int) (id : Option Bytes)
  | keySign (data : Bytes) (mechanism : Mechanism)
  | close (slot : Int)
  deriving DecidableEq, Repr

/-- A call that was made, and the fault that it ended with, if it did. -/
structure MadeCall where
  call : CardCall
  fault : Option Fault
  deriving DecidableEq, Repr

def MadeCall.event? (x : MadeCall) : Option CardEvent :=
  match x.call with
  | .load library => some (.load library)
  | .getToken slot => some (.getToken slot)
  | .open slot login => some (.open slot login x.fault.isNone)
  | .getKey slot id => some (.getKey slot id)
  | .keySign data mechanism => some (.keySign data mechanism)
  | .close slot => some (.close slot)
  | .getSlots | .getObjects _ => none

/-- A task at a module, call by call, and its result. -/
abbrev CardRun (α : Type) := List MadeCall × Except Fault α

namespace CardRun

variable {α β : Type}

/-- A value, unless there is a fault. -/
def orFault (fault : Option Fault) (a : α) : Except Fault α :=
  match fault with
  | none => .ok a
  | some f => .error f

/-- The fault in the place of a value. -/
def faultOf : Except Fault α → Option Fault
  | .ok _ => none
  | .error f => some f

/-- A task without a call. -/
def pure (a : α) : CardRun α := ([], .ok a)

/-- A task that fails without a call. -/
def fail (f : Fault) : CardRun α := ([], .error f)

def call (c : CardCall) (result : Except Fault α) : CardRun α := ([⟨c, faultOf result⟩], result)

/-- One task after another. -/
def bind (t : CardRun α) (next : α → CardRun β) : CardRun β :=
  match t.2 with
  | .error f => (t.1, .error f)
  | .ok a => (t.1 ++ (next a).1, (next a).2)

/-- The record of a task, with its result. -/
def told (t : CardRun α) : CardTask α := (t.1.filterMap MadeCall.event?, t.2)

theorem told_bind (t : CardRun α) (next : α → CardRun β) :
    (t.bind next).told = t.told.bind fun a => (next a).told := by
  obtain ⟨calls, r⟩ := t
  cases r with
  | error f => rfl
  | ok a => simp [bind, told, CardTask.bind]

/-- A call of which an event is recorded. -/
theorem told_call {c : CardCall} {fault : Option Fault} {e : CardEvent}
    (h : MadeCall.event? ⟨c, fault⟩ = some e) : (call c (orFault fault ())).told = .event e fault := by
  cases fault <;> simp [call, told, orFault, faultOf, CardTask.event, h]

end CardRun

/-! ## Tasks, call by call -/

namespace CardModule

variable (m : CardModule) (c : CardConfig) (loaded : Bool)

/-- The module is loaded, unless it is already. -/
def loadRun : CardRun Unit :=
  if loaded then .pure ()
  else match c.library with
    | none | some [] => .fail (.runtime "PKCS11_LIB is not set")
    | some library => .call (.load library) (CardRun.orFault m.loadFault ())

/-- The tokens are looked at, in the order of their slots. -/
def searchRun : List Slot → CardRun Slot
  | [] => .fail (.decline .noCard "No matching token present")
  | s :: rest =>
    if ! c.admitsSlot s.slotId then searchRun rest
    else (CardRun.call (.getToken s.slotId) (CardRun.orFault s.tokenFault ())).bind fun _ =>
      if c.admitsLabel s.label then .pure s else searchRun rest

/-- A token is found. -/
def findTokenRun : CardRun Slot :=
  (m.loadRun c loaded).bind fun _ =>
    (CardRun.call .getSlots (CardRun.orFault m.slotsFault m.slots)).bind (searchRun c)

/-- A card session is opened for a task, and closed whatever the task ends with. -/
def sessionRun {α : Type} (s : Slot) (login : Login) (task : CardRun α) : CardRun α :=
  match s.openFault with
  | some f => .call (.open s.slotId login) (.error f)
  | none => (⟨.open s.slotId login, none⟩ :: (task.1 ++ [⟨.close s.slotId, none⟩]), task.2)

/-- The certificates on a token are read. -/
def listRun (s : Slot) : CardRun (List Certificate) :=
  .call (.getObjects s.slotId) (CardRun.orFault s.objectsFault (Slot.certificates s))

/-- The certificate to sign with, among those on a token. -/
def chosen (s : Slot) : List Certificate → Except Fault Certificate
  | [] => .error (.decline .noCertificate ("No certificate on token " ++ s.label.quoted))
  | first :: rest => choose first (first :: rest)

/-- The certificate to sign with is read. -/
def readRun : CardRun Certificate :=
  (m.findTokenRun c loaded).bind fun s => (sessionRun s .none (listRun s)).bind fun ds => ([], chosen s ds)

/-- What looking up a private key comes to. -/
def lookUp (s : Slot) (id : Option Bytes) : Except Fault CardKey :=
  match s.keyFault with
  | some f => .error f
  | none =>
    match s.keys.filter fun k => some k.id = id with
    | [k] => .ok k
    | [] => .error (.card .noSuchKey none)
    | _ => .error (.card (.other "MultipleObjectsReturned") none)

/-- A key is applied to a hash, if it is suitable. -/
def applyRun (k : CardKey) (h : HashToSign) : CardRun Bytes :=
  match k.type with
  | .other n => .fail (.decline .tokenError ("Unsupported key type " ++ Text.ofNat n))
  | .known type =>
    if h.algorithm.admits (some type) then
      let (data, mechanism) := preparation h type
      .call (.keySign data mechanism) (k.sign mechanism data)
    else
      .fail (.decline .tokenError
        (Text.ofString h.algorithm.identifier ++ " cannot be used with a " ++ Text.ofString type.name ++ " key"))

/-- A hash is signed with the key that belongs to a certificate. -/
def signRun (d : Certificate) (h : HashToSign) (login : Login) : CardRun Bytes :=
  (m.findTokenRun c loaded).bind fun s =>
    sessionRun s login ((CardRun.call (.getKey s.slotId d.keyRef) (lookUp s d.keyRef)).bind fun k => applyRun k h)

/-! ## What is told of them -/

theorem told_loadRun : (m.loadRun c loaded).told = m.load c loaded := by
  unfold loadRun load
  cases loaded with
  | true => rfl
  | false =>
    rcases c.library with _ | _ | ⟨first, rest⟩
    · rfl
    · rfl
    · exact CardRun.told_call rfl

theorem told_searchRun (slots : List Slot) : (searchRun c slots).told = findIn c slots := by
  induction slots with
  | nil => rfl
  | cons s rest ih =>
    rw [searchRun, findIn]
    split
    · exact ih
    · rw [CardRun.told_bind, CardRun.told_call rfl]
      congr 1
      funext _
      split
      · rfl
      · exact ih

theorem told_findTokenRun : (m.findTokenRun c loaded).told = m.findToken c loaded := by
  unfold findTokenRun findToken
  rw [CardRun.told_bind, told_loadRun]
  congr 1
  funext _
  rw [CardRun.told_bind]
  cases m.slotsFault with
  | some f => rfl
  | none => exact told_searchRun c m.slots

theorem told_sessionRun {α : Type} (s : Slot) (login : Login) (task : CardRun α) :
    (sessionRun s login task).told = withSession s login task.told := by
  unfold sessionRun withSession
  cases s.openFault with
  | some f => rfl
  | none => simp [CardRun.told, MadeCall.event?]

/-- The calls for a certificate are those that are recorded, and the calls of which nothing is. -/
theorem told_readRun : (m.readRun c loaded).told = m.readCertificate c loaded := by
  unfold readRun readCertificate
  rw [CardRun.told_bind, told_findTokenRun]
  congr 1
  funext s
  rw [CardRun.told_bind, told_sessionRun]
  have hlist : (listRun s).told =
      match s.objectsFault with
      | some f => .fail f
      | none => .pure (Slot.certificates s) := by
    unfold listRun
    cases s.objectsFault <;> rfl
  rw [hlist]
  congr 1
  funext ds
  cases ds <;> rfl

theorem told_lookUp (s : Slot) (id : Option Bytes) :
    (CardRun.call (.getKey s.slotId id) (lookUp s id)).told = findKey s id := by
  unfold lookUp findKey
  cases s.keyFault with
  | some f => rfl
  | none =>
    cases s.keys.filter fun k => some k.id = id with
    | nil => rfl
    | cons k rest => cases rest <;> rfl

theorem told_applyRun (k : CardKey) (h : HashToSign) : (applyRun k h).told = applyKey k h := by
  unfold applyRun applyKey
  cases k.type with
  | other n => rfl
  | known type =>
    dsimp only
    split <;> rfl

/-- The calls for a signature are those that are recorded, and the calls of which nothing is. -/
theorem told_signRun (d : Certificate) (h : HashToSign) (login : Login) :
    (m.signRun c loaded d h login).told = m.signHash c loaded d h login := by
  unfold signRun signHash
  rw [CardRun.told_bind, told_findTokenRun]
  congr 1
  funext s
  rw [told_sessionRun, CardRun.told_bind, told_lookUp]
  simp only [told_applyRun]

end CardModule

/-! ## Faults -/

namespace CardRun

variable {α β : Type}

/-- A fault that a call ends with is what the task ends with. -/
def Surfaces (t : CardRun α) : Prop := ∀ x ∈ t.1, ∀ f ∈ x.fault, t.2 = .error f

theorem Surfaces.bind {t : CardRun α} (ht : t.Surfaces) {next : α → CardRun β} (hn : ∀ a, (next a).Surfaces) :
    (t.bind next).Surfaces := by
  obtain ⟨calls, r⟩ := t
  cases r with
  | error f =>
    intro x hx g hg
    obtain rfl := Except.error.inj (ht x hx g hg)
    rfl
  | ok a =>
    -- The first task has a value, so none of its calls has a fault.
    intro x hx g hg
    rcases List.mem_append.mp hx with hx | hx
    · exact nomatch ht x hx g hg
    · exact hn a x hx g hg

end CardRun

namespace CardModule

variable (m : CardModule) (c : CardConfig) (loaded : Bool)

end CardModule

/-! ## Card sessions -/

/-- The call is made to find a token. -/
def CardCall.isSearch : CardCall → Bool
  | .load _ | .getSlots | .getToken _ => true
  | _ => false

/-- The call reads what is on a token, or uses a key on it. -/
def CardCall.isUse : CardCall → Bool
  | .getObjects _ | .getKey .. | .keySign .. => true
  | _ => false

namespace MadeCall

/-- A card session is open from now on. -/
def opens (x : MadeCall) : Bool :=
  match x.call with
  | .open .. => x.fault.isNone
  | _ => false

/-- A card session is closed. -/
def closes (x : MadeCall) : Bool :=
  match x.call with
  | .close _ => true
  | _ => false

/-- A call by which a token is searched neither opens nor closes anything, and uses nothing. -/
theorem of_isSearch {x : MadeCall} (h : x.call.isSearch = true) :
    x.opens = false ∧ x.closes = false ∧ x.call.isUse = false := by
  obtain ⟨call, fault⟩ := x
  cases call <;> first | exact ⟨rfl, rfl, rfl⟩ | cases h

/-- A call by which a token is used neither opens nor closes anything. -/
theorem of_isUse {x : MadeCall} (h : x.call.isUse = true) : x.opens = false ∧ x.closes = false := by
  obtain ⟨call, fault⟩ := x
  cases call <;> first | exact ⟨rfl, rfl⟩ | cases h

end MadeCall

/-- No card session is left open. -/
structure Released (calls : List MadeCall) : Prop where
  /-- As many card sessions are closed as are opened. -/
  balanced : calls.countP MadeCall.closes = calls.countP MadeCall.opens
  once : calls.countP MadeCall.opens ≤ 1
  /-- What is closed has been opened before. -/
  closes : ∀ before slot fault after, calls = before ++ ⟨.close slot, fault⟩ :: after →
    ∃ login, ⟨.open slot login, none⟩ ∈ before
  /-- A token is used after it has been opened, and before it is closed. -/
  uses : ∀ before x after, calls = before ++ x :: after → x.call.isUse = true →
    ∃ slot login, ⟨.open slot login, none⟩ ∈ before ∧ ⟨.close slot, none⟩ ∈ after

section Parts

variable {α : Type} {first rest before after last : List α} {x : α}

/-- What does not stand in the first part of a list stands after it. -/
theorem exists_before_eq_append (h : first ++ rest = before ++ x :: after) (hx : x ∉ first) :
    ∃ l, before = first ++ l ∧ rest = l ++ x :: after := by
  obtain ⟨l, hbefore, hrest⟩ | ⟨l, hfirst, htail⟩ := List.append_eq_append_iff.mp h
  · exact ⟨l, hbefore, hrest⟩
  · cases l with
    | nil => exact ⟨[], by simpa using hfirst.symm, htail.symm⟩
    | cons y l =>
      obtain ⟨rfl, -⟩ := List.cons.inj htail
      exact absurd (hfirst ▸ List.mem_append_right before List.mem_cons_self) hx

/-- What does not stand in the last part of a list stands before it. -/
theorem exists_after_eq_append (h : rest ++ last = before ++ x :: after) (hx : x ∉ last) :
    ∃ l, after = l ++ last := by
  obtain ⟨l, -, hlast⟩ | ⟨l, -, htail⟩ := List.append_eq_append_iff.mp h
  · exact absurd (hlast ▸ List.mem_append_right l List.mem_cons_self) hx
  · cases l with
    | nil =>
      have hlast : last = x :: after := htail.symm
      exact absurd (hlast ▸ List.mem_cons_self) hx
    | cons y l =>
      obtain ⟨-, rfl⟩ := List.cons.inj htail
      exact ⟨l, rfl⟩

end Parts

/-- Of calls of which none has a property, none is counted. -/
theorem countP_eq_zero_of_forall {calls : List MadeCall} {p : MadeCall → Bool} (h : ∀ x ∈ calls, p x = false) :
    calls.countP p = 0 :=
  List.countP_eq_zero.mpr fun x hx => by simp [h x hx]

theorem released_nil : Released [] := ⟨rfl, Nat.zero_le 1, by simp, by simp⟩

/-- A token that cannot be opened need not be closed. -/
theorem released_of_not_opened (slot : Int) (login : Login) (f : Fault) : Released [⟨.open slot login, some f⟩] where
  balanced := rfl
  once := Nat.zero_le 1
  closes before slot fault after h := by
    cases before <;> simp at h
  uses before x after h hu := by
    cases before with
    | nil =>
      obtain ⟨rfl, -⟩ := List.cons.inj h
      cases hu
    | cons y before => simp at h

/-- A token that is opened, used and closed. -/
theorem released_of_uses (slot : Int) (login : Login) {uses : List MadeCall} (h : ∀ x ∈ uses, x.call.isUse = true) :
    Released (⟨.open slot login, none⟩ :: (uses ++ [⟨.close slot, none⟩])) := by
  have hopens := countP_eq_zero_of_forall fun x hx => (MadeCall.of_isUse (h x hx)).1
  have hcloses := countP_eq_zero_of_forall fun x hx => (MadeCall.of_isUse (h x hx)).2
  refine ⟨?balanced, ?once, ?closes, ?uses⟩
  case balanced => simp [List.countP_cons, hopens, hcloses, MadeCall.opens, MadeCall.closes]
  case once => simp [List.countP_cons, hopens, MadeCall.opens]
  case closes =>
    intro before slot' fault after heq
    obtain ⟨rfl, hcons⟩ | ⟨before, rfl, hrest⟩ := List.cons_eq_append_iff.mp heq
    · simp at hcons
    · -- The only call that closes anything is the last one.
      have hclose : (⟨.close slot', fault⟩ : MadeCall) ∈ uses ++ [⟨.close slot, none⟩] := by simp [hrest]
      rcases List.mem_append.mp hclose with hm | hm
      · exact nomatch h _ hm
      · obtain ⟨hslot, -⟩ := MadeCall.mk.inj (List.mem_singleton.mp hm)
        obtain rfl := CardCall.close.inj hslot
        exact ⟨login, List.mem_cons_self⟩
  case uses =>
    intro before x after heq hu
    obtain ⟨rfl, hcons⟩ | ⟨before, rfl, hrest⟩ := List.cons_eq_append_iff.mp heq
    · obtain ⟨rfl, -⟩ := List.cons.inj hcons
      cases hu
    · have hx : x ∉ [(⟨.close slot, none⟩ : MadeCall)] := by
        intro hm
        obtain rfl := List.mem_singleton.mp hm
        cases hu
      obtain ⟨l, rfl⟩ := exists_after_eq_append hrest hx
      exact ⟨slot, login, List.mem_cons_self, by simp⟩

/-- A search before the rest changes nothing. -/
theorem Released.of_search {search rest : List MadeCall} (hs : ∀ x ∈ search, x.call.isSearch = true)
    (h : Released rest) : Released (search ++ rest) := by
  have hopens := countP_eq_zero_of_forall fun x hx => (MadeCall.of_isSearch (hs x hx)).1
  have hcloses := countP_eq_zero_of_forall fun x hx => (MadeCall.of_isSearch (hs x hx)).2.1
  refine ⟨?balanced, ?once, ?closes, ?uses⟩
  case balanced => rw [List.countP_append, List.countP_append, hopens, hcloses, h.balanced]
  case once => rw [List.countP_append, hopens, Nat.zero_add]; exact h.once
  case closes =>
    intro before slot fault after heq
    obtain ⟨l, rfl, hrest⟩ := exists_before_eq_append heq fun hm => nomatch hs _ hm
    obtain ⟨login, hopen⟩ := h.closes l slot fault after hrest
    exact ⟨login, List.mem_append_right search hopen⟩
  case uses =>
    intro before x after heq hu
    obtain ⟨l, rfl, hrest⟩ := exists_before_eq_append heq fun hm =>
      nomatch (MadeCall.of_isSearch (hs x hm)).2.2.symm.trans hu
    obtain ⟨slot, login, hopen, hclose⟩ := h.uses l x after hrest hu
    exact ⟨slot, login, List.mem_append_right search hopen, hclose⟩

namespace CardRun

variable {α β : Type} {p : CardCall → Bool}

theorem forall_call {c : CardCall} (h : p c = true) (r : Except Fault α) : ∀ x ∈ (call c r).1, p x.call = true := by
  intro x hx
  rw [List.mem_singleton.mp hx]
  exact h

theorem forall_bind {t : CardRun α} (ht : ∀ x ∈ t.1, p x.call = true) {next : α → CardRun β}
    (hn : ∀ a, ∀ x ∈ (next a).1, p x.call = true) : ∀ x ∈ (t.bind next).1, p x.call = true := by
  obtain ⟨calls, r⟩ := t
  cases r with
  | error f => exact ht
  | ok a => exact List.forall_mem_append.mpr ⟨ht, hn a⟩

/-- What makes no call adds none. -/
theorem calls_bind_of_no_call (t : CardRun α) (r : α → Except Fault β) : (t.bind fun a => ([], r a)).1 = t.1 := by
  obtain ⟨calls, a⟩ := t
  cases a with
  | error f => rfl
  | ok a => exact List.append_nil calls

end CardRun

namespace CardModule

variable (m : CardModule) (c : CardConfig) (loaded : Bool)

theorem searchRun_isSearch (slots : List Slot) : ∀ x ∈ (searchRun c slots).1, x.call.isSearch = true := by
  induction slots with
  | nil => exact List.forall_mem_nil _
  | cons s rest ih =>
    rw [searchRun]
    split
    · exact ih
    · refine CardRun.forall_bind (CardRun.forall_call rfl _) fun _ => ?_
      split
      · exact List.forall_mem_nil _
      · exact ih

theorem findTokenRun_isSearch : ∀ x ∈ (m.findTokenRun c loaded).1, x.call.isSearch = true := by
  have hload : ∀ x ∈ (m.loadRun c loaded).1, x.call.isSearch = true := by
    unfold loadRun
    split
    · exact List.forall_mem_nil _
    · split
      · exact List.forall_mem_nil _
      · exact List.forall_mem_nil _
      · exact CardRun.forall_call rfl _
  exact CardRun.forall_bind hload fun _ =>
    CardRun.forall_bind (CardRun.forall_call rfl _) (searchRun_isSearch c)

theorem applyRun_isUse (k : CardKey) (h : HashToSign) : ∀ x ∈ (applyRun k h).1, x.call.isUse = true := by
  unfold applyRun
  split
  · exact List.forall_mem_nil _
  · split
    · exact CardRun.forall_call rfl _
    · exact List.forall_mem_nil _

theorem released_sessionRun {α : Type} (s : Slot) (login : Login) {task : CardRun α}
    (h : ∀ x ∈ task.1, x.call.isUse = true) : Released (sessionRun s login task).1 := by
  unfold sessionRun
  cases s.openFault with
  | some f => exact released_of_not_opened s.slotId login f
  | none => exact released_of_uses s.slotId login h

/-- A task with a token that is searched first. -/
theorem released_findTokenRun_bind {α : Type} {next : Slot → CardRun α} (h : ∀ s, Released (next s).1) :
    Released ((m.findTokenRun c loaded).bind next).1 := by
  have hs := m.findTokenRun_isSearch c loaded
  unfold CardRun.bind
  split
  · rw [← List.append_nil (m.findTokenRun c loaded).1]
    exact released_nil.of_search hs
  next s _ => exact (h s).of_search hs

/-- **No card session is left open.** Whatever a card module answers, and whichever of its calls fails: when a
certificate is read or a hash is signed, a card session is opened once at most; if it is opened, it is closed, and what
is done with the token in it comes between. -/
theorem sessions_released :
    ((m.readRun c loaded).told = m.readCertificate c loaded ∧ Released (m.readRun c loaded).1) ∧
    ∀ d h login, (m.signRun c loaded d h login).told = m.signHash c loaded d h login ∧
      Released (m.signRun c loaded d h login).1 := by
  refine ⟨⟨m.told_readRun c loaded, ?_⟩, fun d h login => ⟨m.told_signRun c loaded d h login, ?_⟩⟩
  · refine m.released_findTokenRun_bind c loaded fun s => ?_
    rw [CardRun.calls_bind_of_no_call]
    exact released_sessionRun s .none (CardRun.forall_call rfl _)
  · exact m.released_findTokenRun_bind c loaded fun s =>
      released_sessionRun s login (CardRun.forall_bind (CardRun.forall_call rfl _) fun k => applyRun_isUse k h)

end CardModule

end RemoteSigning
