import Mathlib.Data.List.Forall2
import Southbound.Config.Source
import Southbound.Proofs.Fields

/-!
# Settings are read one by one

What a configuration file says about a setting is what it gives at the place of the setting, and
nothing else that stands in the file has a say in it.

`Config.Setting.all` lists the settings with their places, what they may hold and their defaults,
which count for a setting that a section does not give and for those of a missing section alike
(`Config.Section.leftWith_iff`).  `Config.read?_eq_some_iff` says as what a document is read, and
`Config.exists_read?_iff` says which documents are: sections have to be sections, a setting that is
given has to be of its kind, and the devices have to be a list of entries each of which is one.

All of this holds whatever reads the documents, as long as it reads tables in which no key stands
twice (`ReadsTables`); the main statement is `ConfigFile.Holds.fields_apart`.  One thing that counts
as a section is easily overlooked: a date or a time passes for a section that gives nothing
(`ConfigFile.moment_passes_for_section`).
-/

namespace Southbound

/-! ## Settings -/

/-- A number that a setting may have has sixty-four bits. -/
@[simp] theorem Datum.asNat_settingLimit_eq_some_iff {d : Datum} {n : Nat} :
    d.asNat settingLimit = some n ↔ d = .integer n ∧ n < UInt64.size := by
  have small : n ≤ settingLimit ↔ n < UInt64.size := Nat.lt_succ_iff.symm
  rw [asNat_eq_some_iff, small]

namespace Place

def provider : Place := ⟨0, "provider"⟩
def scheduler : Place := ⟨1, "scheduler"⟩
def pools : Place := ⟨2, "pools"⟩
def probe : Place := ⟨3, "probe"⟩
def devices : Place := ⟨4, "devices"⟩

/-- Where the sections stand. -/
def sections : List Place := [provider, scheduler, pools, probe]

end Place

namespace Config

/-- A setting: where it stands, what it may hold, and what it is where nothing is given. -/
structure Setting where
  Value : Type
  /-- Where its section stands in the document. -/
  home : Place
  /-- Where the setting stands in the section. -/
  place : Place
  Means : Datum → Value → Prop
  default : Value
  /-- The setting in a configuration. -/
  value : Config → Value
  means_unique : ∀ {x v w}, Means x v → Means x w → v = w

namespace Setting

/-- A setting that is a text. -/
def text (home place : Place) (default : String) (value : Config → String) : Setting where
  Value := String
  home := home
  place := place
  Means x s := x = .text s
  default := default
  value := value
  means_unique := by rintro _ _ _ rfl ⟨⟩; rfl

/-- A setting that is a number of sixty-four bits. -/
def number (home place : Place) (default : Nat) (value : Config → Nat) : Setting where
  Value := Nat
  home := home
  place := place
  Means x n := x = .integer n ∧ n < UInt64.size
  default := default
  value := value
  means_unique := by rintro _ _ _ ⟨rfl, -⟩ ⟨⟨⟩, -⟩; rfl

def appId : Setting := text .provider ⟨0, "app_id"⟩ "org.nelm.provider" (·.provider.appId)
def scheme : Setting := text .provider ⟨1, "scheme"⟩ "netconf" (·.provider.scheme)
def logLevel : Setting := text .provider ⟨2, "log_level"⟩ "info" (·.provider.logLevel)

def initialDelaySecs : Setting :=
  number .scheduler ⟨0, "initial_delay_secs"⟩ 3 (·.scheduler.initialDelaySecs)
def periodSecs : Setting := number .scheduler ⟨1, "period_secs"⟩ 30 (·.scheduler.periodSecs)

def eventWorkers : Setting := number .pools ⟨0, "event_workers"⟩ 5 (·.pools.eventWorkers)
def connectionWorkers : Setting :=
  number .pools ⟨1, "connection_workers"⟩ 10 (·.pools.connectionWorkers)

def timeoutMs : Setting := number .probe ⟨0, "timeout_ms"⟩ 2000 (·.probe.timeoutMs)

/-! The settings section by section. -/

def ofProvider : List Setting := [appId, scheme, logLevel]
def ofScheduler : List Setting := [initialDelaySecs, periodSecs]
def ofPools : List Setting := [eventWorkers, connectionWorkers]
def ofProbe : List Setting := [timeoutMs]

/-- All settings. -/
def all : List Setting := ofProvider ++ ofScheduler ++ ofPools ++ ofProbe

variable {s : Setting} {d d' x y : Datum} {v w : s.Value}

/-- The document gives `x` for the setting. -/
def Given (s : Setting) (d x : Datum) : Prop := ∃ part, d.Gives s.home part ∧ part.Gives s.place x

/-- The document leaves the setting with `v`. -/
def Settled (s : Setting) (d : Datum) (v : s.Value) : Prop :=
  LeftWith (s.Given d) s.Means s.default v

theorem given_unique (proper : d.Proper) (given : s.Given d x) (given' : s.Given d y) : x = y := by
  obtain ⟨part, home, there⟩ := given
  obtain ⟨part', home', there'⟩ := given'
  cases proper.gives_unique home home'
  exact (proper.of_gives home).gives_unique there there'

/-- Where the section is given, the setting is a matter of the section. -/
theorem settled_of_gives {part : Datum} (proper : d.Proper) (given : d.Gives s.home part) :
    s.Settled d v ↔ LeftWith (part.Gives s.place) s.Means s.default v := by
  have same : s.Given d = part.Gives s.place := by
    funext x
    refine propext ⟨?_, fun there => ⟨part, given, there⟩⟩
    rintro ⟨other, given', there⟩
    rwa [proper.gives_unique given given']
  rw [Settled, same]

/-- Where the section is missing, the setting is the default. -/
theorem settled_of_missing (missing : ∀ part, ¬d.Gives s.home part) :
    s.Settled d v ↔ v = s.default :=
  LeftWith.iff_of_missing fun _ ⟨part, given, _⟩ => missing part given

theorem exists_settled_iff (proper : d.Proper) :
    (∃ v, s.Settled d v) ↔ ∀ x, s.Given d x → ∃ v, s.Means x v :=
  LeftWith.exists_iff (given_unique proper)

/-- Documents that give the same for a setting leave it with the same value. -/
theorem Settled.eq (h : s.Settled d v) (h' : s.Settled d' w) (proper : d.Proper)
    (same : ∀ x, s.Given d x ↔ s.Given d' x) : v = w := by
  have same : s.Given d = s.Given d' := funext fun x => propext (same x)
  rw [Settled, ← same] at h'
  exact LeftWith.eq (given_unique proper) h h' s.means_unique

end Setting

/-! ## Sections -/

/-- The sections of a configuration. -/
inductive Section
  | provider
  | scheduler
  | pools
  | probe

namespace Section

/-- What a section is read as. -/
@[reducible] def Content : Section → Type
  | provider => ProviderSection
  | scheduler => SchedulerSection
  | pools => PoolSection
  | probe => ProbeSection

/-- Where the section stands in the document. -/
def home : Section → Place
  | provider => .provider
  | scheduler => .scheduler
  | pools => .pools
  | probe => .probe

/-- The settings of the section. -/
def settings : Section → List Setting
  | provider => Setting.ofProvider
  | scheduler => Setting.ofScheduler
  | pools => Setting.ofPools
  | probe => Setting.ofProbe

/-- Reads the section. -/
def read? : (k : Section) → Datum → Option k.Content
  | provider => ProviderSection.read?
  | scheduler => SchedulerSection.read?
  | pools => PoolSection.read?
  | probe => ProbeSection.read?

/-- The section that stands for a missing one. -/
def default : (k : Section) → k.Content
  | provider => .default
  | scheduler => .default
  | pools => .default
  | probe => .default

/-- The section in a configuration. -/
def part : (k : Section) → Config → k.Content
  | provider => (·.provider)
  | scheduler => (·.scheduler)
  | pools => (·.pools)
  | probe => (·.probe)

end Section

open Config.Setting in
/-- The settings of a section stand in it, and a missing section stands for one in which every
setting is missing. -/
theorem Section.part_eq_default_iff (k : Section) (c : Config) :
    (∀ s ∈ k.settings, s.home = k.home) ∧
      (k.part c = k.default ↔ ∀ s ∈ k.settings, s.value c = s.default) := by
  obtain ⟨⟨_, _, _⟩, ⟨_, _⟩, ⟨_, _⟩, ⟨_⟩, -⟩ := c
  cases k <;>
    simp [part, default, settings, home, ofProvider, ofScheduler, ofPools, ofProbe, appId, scheme,
      logLevel, initialDelaySecs, periodSecs, eventWorkers, connectionWorkers, timeoutMs, text,
      number, ProviderSection.default, SchedulerSection.default, PoolSection.default,
      ProbeSection.default]

open Config.Setting in
/-- Only sections are read, and as what they leave their settings with. -/
theorem Section.read?_eq_some_iff (k : Section) {d : Datum} (proper : d.Proper) (c : Config) :
    k.read? d = some (k.part c) ↔
      d.IsSection ∧ ∀ s ∈ k.settings, LeftWith (d.Gives s.place) s.Means s.default (s.value c) := by
  obtain ⟨⟨_, _, _⟩, ⟨_, _⟩, ⟨_, _⟩, ⟨_⟩, -⟩ := c
  cases k <;> refine proper.bind_fields_iff fun fields of => ?_
  all_goals
    simp [part, settings, of.withDefault_iff, Option.bind_eq_some_iff, ofProvider, ofScheduler,
      ofPools, ofProbe, appId, scheme, logLevel, initialDelaySecs, periodSecs, eventWorkers,
      connectionWorkers, timeoutMs, text, number, ProviderSection.default,
      SchedulerSection.default, PoolSection.default, ProbeSection.default]

/-- What the document leaves a section with is what it leaves the settings of the section with. -/
theorem Section.leftWith_iff (k : Section) {d : Datum} (proper : d.Proper) (c : Config) :
    LeftWith (d.Gives k.home) (fun x v => k.read? x = some v) k.default (k.part c) ↔
      (∀ x, d.Gives k.home x → x.IsSection) ∧ ∀ s ∈ k.settings, s.Settled d (s.value c) := by
  obtain ⟨there, defaults⟩ := k.part_eq_default_iff c
  by_cases given : ∃ x, d.Gives k.home x
  · obtain ⟨x, given⟩ := given
    rw [LeftWith.iff_of_given proper.gives_unique given,
      k.read?_eq_some_iff (proper.of_gives given)]
    refine and_congr ⟨fun isSection y given' => ?_, fun isSection => isSection x given⟩ ?_
    · rwa [← proper.gives_unique given given']
    · refine forall₂_congr fun s mem => ?_
      rw [Setting.settled_of_gives proper (there s mem ▸ given)]
  · have missing : ∀ x, ¬d.Gives k.home x := not_exists.1 given
    have settled : ∀ s ∈ k.settings, (s.Settled d (s.value c) ↔ s.value c = s.default) :=
      fun s mem => Setting.settled_of_missing (there s mem ▸ missing)
    rw [LeftWith.iff_of_missing missing, defaults, forall₂_congr settled]
    exact ⟨fun same => ⟨fun x given => absurd given (missing x), same⟩, And.right⟩

theorem Section.forall_iff_and {P : Section → Prop} :
    (∀ k, P k) ↔ P .provider ∧ P .scheduler ∧ P .pools ∧ P .probe := by
  constructor
  · exact fun h => ⟨h _, h _, h _, h _⟩
  · rintro ⟨provider, scheduler, pools, probe⟩ (_ | _ | _ | _) <;> assumption

/-- What holds of the sections one by one holds of where they stand and of all their settings. -/
theorem Section.forall_iff {P : Place → Prop} {Q : Setting → Prop} :
    (∀ k : Section, P k.home ∧ ∀ s ∈ k.settings, Q s) ↔
      (∀ home ∈ Place.sections, P home) ∧ ∀ s ∈ Setting.all, Q s := by
  simp only [Section.forall_iff_and, Section.home, Section.settings, Setting.all, Place.sections,
    List.forall_mem_append, List.forall_mem_cons]
  constructor
  · rintro ⟨⟨h₁, s₁⟩, ⟨h₂, s₂⟩, ⟨h₃, s₃⟩, h₄, s₄⟩
    exact ⟨⟨h₁, h₂, h₃, h₄, List.forall_mem_nil _⟩, ⟨⟨s₁, s₂⟩, s₃⟩, s₄⟩
  · rintro ⟨⟨h₁, h₂, h₃, h₄, -⟩, ⟨⟨s₁, s₂⟩, s₃⟩, s₄⟩
    exact ⟨⟨h₁, s₁⟩, ⟨h₂, s₂⟩, ⟨h₃, s₃⟩, h₄, s₄⟩

end Config

/-! ## Devices -/

namespace Place

def address : Place := ⟨0, "address"⟩
def port : Place := ⟨1, "port"⟩
def username : Place := ⟨2, "username"⟩
def password : Place := ⟨3, "password"⟩
def sshKey : Place := ⟨4, "ssh_key"⟩

/-- Where the parts of a device stand in an entry of the list. -/
def ofDevice : List Place := [address, port, username, password, sshKey]

end Place

namespace Datum

/-- The datum stands for the key of a device, which only a text does. -/
def IsSshKey (d : Datum) (key : Option String) : Prop := ∃ s, d = .text s ∧ key = some s

/-- The entry gives all that a device has to have, and a key, if it gives one, that is one. -/
structure IsDevice (d : Datum) : Prop where
  address : ∃ s, d.Gives .address (.text s)
  port : ∃ n : Nat, n < UInt16.size ∧ d.Gives .port (.integer n)
  username : ∃ s, d.Gives .username (.text s)
  password : ∃ s, d.Gives .password (.text s)
  sshKey : ∀ x, d.Gives .sshKey x → ∃ key, x.IsSshKey key

/-- The entry gives just this device. -/
structure Describes (d : Datum) (device : DesiredDevice) : Prop where
  address : d.Gives .address (.text device.address)
  port : d.Gives .port (.integer device.port.toNat)
  username : d.Gives .username (.text device.username)
  password : d.Gives .password (.text device.password)
  sshKey : LeftWith (d.Gives .sshKey) IsSshKey none device.sshKey

/-- Both entries give the same for each part of a device. -/
def AlikeAsDevices (d d' : Datum) : Prop :=
  ∀ place ∈ Place.ofDevice, d.Gives place = d'.Gives place

variable {d d' : Datum} {device : DesiredDevice}

theorem exists_describes_iff (proper : d.Proper) :
    (∃ device, d.Describes device) ↔ d.IsDevice := by
  have key : (∃ key, LeftWith (d.Gives .sshKey) IsSshKey none key) ↔
      ∀ x, d.Gives .sshKey x → ∃ key, x.IsSshKey key := LeftWith.exists_iff proper.gives_unique
  constructor
  · rintro ⟨device, h⟩
    exact ⟨⟨_, h.address⟩, ⟨_, device.port.toNat_lt, h.port⟩, ⟨_, h.username⟩, ⟨_, h.password⟩,
      key.1 ⟨_, h.sshKey⟩⟩
  · intro h
    obtain ⟨address, ha⟩ := h.address
    obtain ⟨n, small, hn⟩ := h.port
    obtain ⟨username, hu⟩ := h.username
    obtain ⟨password, hp⟩ := h.password
    obtain ⟨sshKey, hk⟩ := key.2 h.sshKey
    rw [← UInt16.toNat_ofNat_of_lt' small] at hn
    exact ⟨⟨address, .ofNat n, username, password, sshKey⟩, ha, hn, hu, hp, hk⟩

theorem Describes.isSection (h : d.Describes device) : d.IsSection := by
  have given := h.address
  cases d <;> trivial

theorem AlikeAsDevices.describes (alike : d.AlikeAsDevices d') (h : d.Describes device) :
    d'.Describes device := by
  simp only [AlikeAsDevices, Place.ofDevice, List.forall_mem_cons] at alike
  obtain ⟨address, port, username, password, sshKey, -⟩ := alike
  exact ⟨address ▸ h.address, port ▸ h.port, username ▸ h.username, password ▸ h.password,
    sshKey ▸ h.sshKey⟩

end Datum

theorem DesiredDevice.read?_eq_some_iff {d : Datum} (proper : d.Proper) {device : DesiredDevice} :
    DesiredDevice.read? .configuration d = some device ↔ d.Describes device := by
  have key : LeftWith (d.Gives .sshKey) (fun x key => x.asNullable Datum.asText = some key) none
      device.sshKey ↔ LeftWith (d.Gives .sshKey) Datum.IsSshKey none device.sshKey :=
    LeftWith.congr fun x given => (proper.of_gives given).asNullable_asText_eq_some_iff
  have read : DesiredDevice.read? .configuration d = some device ↔ d.IsSection ∧
      d.Gives .address (.text device.address) ∧ d.Gives .port (.integer device.port.toNat) ∧
      d.Gives .username (.text device.username) ∧ d.Gives .password (.text device.password) ∧
      LeftWith (d.Gives .sshKey) (fun x key => x.asNullable Datum.asText = some key) none
        device.sshKey := by
    obtain ⟨_, _, _, _, _⟩ := device
    refine proper.bind_fields_iff fun fields of => ?_
    simp [of.required_iff, Fields.optional, of.withDefault_iff, Option.bind_eq_some_iff,
      Place.address, Place.port, Place.username, Place.password, Place.sshKey]
  rw [read, key]
  exact ⟨fun ⟨_, address, port, username, password, sshKey⟩ =>
      ⟨address, port, username, password, sshKey⟩,
    fun h => ⟨h.isSection, h.address, h.port, h.username, h.password, h.sshKey⟩⟩

/-! ## Lists of devices -/

section lists

variable {α β : Type} {xs : List α} {ys : List β} {R S : α → β → Prop}

theorem mapM_eq_some_iff_forall₂ {read : α → Option β} :
    xs.mapM read = some ys ↔ List.Forall₂ (fun x y => read x = some y) xs ys := by
  induction xs generalizing ys with
  | nil => simp [eq_comm]
  | cons x xs ih =>
    simp only [List.mapM_cons, Option.bind_eq_bind, Option.bind_eq_some_iff, Option.pure_def, ih,
      List.forall₂_cons_left_iff, Option.some.injEq]
    constructor
    · rintro ⟨y, first, ys, rest, rfl⟩
      exact ⟨y, ys, first, rest, rfl⟩
    · rintro ⟨y, ys, first, rest, rfl⟩
      exact ⟨y, first, ys, rest, rfl⟩

/-- Two relations hold along a list together if they agree on its members. -/
theorem forall₂_congr_of_mem {P : α → Prop} (each : ∀ x ∈ xs, P x)
    (same : ∀ x y, P x → (R x y ↔ S x y)) : List.Forall₂ R xs ys ↔ List.Forall₂ S xs ys := by
  calc List.Forall₂ R xs ys
      ↔ List.Forall₂ (fun x y => P x ∧ R x y) xs ys := by
        rw [List.forall₂_and_left, and_iff_right each]
    _ ↔ List.Forall₂ (fun x y => P x ∧ S x y) xs ys := by
        simp only [and_congr_right (same _ _)]
    _ ↔ List.Forall₂ S xs ys := by
        rw [List.forall₂_and_left, and_iff_right each]

theorem exists_forall₂_iff : (∃ ys, List.Forall₂ R xs ys) ↔ ∀ x ∈ xs, ∃ y, R x y := by
  induction xs with
  | nil => simp
  | cons x xs ih =>
    rw [List.forall_mem_cons, ← ih]
    constructor
    · rintro ⟨_, _ | ⟨first, rest⟩⟩
      exact ⟨⟨_, first⟩, _, rest⟩
    · rintro ⟨⟨_, first⟩, _, rest⟩
      exact ⟨_, .cons first rest⟩

end lists

namespace Datum

/-- The document lists just these devices, in this order. -/
def Lists (d : Datum) (devices : List DesiredDevice) : Prop :=
  LeftWith (d.Gives .devices)
    (fun x devices => ∃ items, x = .list items ∧ List.Forall₂ Describes items devices) [] devices

/-- Both documents give lists, and the entries are alike one by one. -/
def ListsAlike (d d' : Datum) : Prop :=
  ∃ items items', d.Gives .devices (.list items) ∧ d'.Gives .devices (.list items') ∧
    List.Forall₂ AlikeAsDevices items items'

variable {d d' : Datum} {devices devices' : List DesiredDevice}

theorem lists_iff_read (proper : d.Proper) :
    d.Lists devices ↔ LeftWith (d.Gives .devices) (fun x devices =>
      x.asListOf (DesiredDevice.read? .configuration) = some devices) [] devices := by
  refine LeftWith.congr fun x given => ?_
  cases proper.of_gives given with
  | list each =>
    have same : List.Forall₂ Describes _ devices ↔
        List.Forall₂ (fun item device => DesiredDevice.read? .configuration item = some device) _
          devices :=
      forall₂_congr_of_mem each fun _ _ proper => (DesiredDevice.read?_eq_some_iff proper).symm
    simp [asListOf, mapM_eq_some_iff_forall₂, same]
  | _ => simp [asListOf]

/-- A list of devices can be read if each of its entries can. -/
theorem exists_lists_iff (proper : d.Proper) :
    (∃ devices, d.Lists devices) ↔
      ∀ x, d.Gives .devices x → ∃ items, x = .list items ∧ ∀ item ∈ items, item.IsDevice := by
  refine (LeftWith.exists_iff proper.gives_unique).trans (forall₂_congr fun x given => ?_)
  rw [exists_comm]
  refine exists_congr fun items => ?_
  rw [exists_and_left]
  refine and_congr_right fun same => ?_
  subst same
  have proper := (proper.of_gives given).of_mem_items
  rw [exists_forall₂_iff]
  exact forall₂_congr fun item mem => exists_describes_iff (proper item mem)

theorem Lists.eq (proper : d.Proper) (h : d.Lists devices) (h' : d.Lists devices') :
    devices = devices' := by
  rw [lists_iff_read proper] at h h'
  refine LeftWith.eq proper.gives_unique h h' fun read read' => ?_
  exact Option.some.inj (read.symm.trans read')

theorem describes_of_alike {items items' : List Datum}
    (alike : List.Forall₂ AlikeAsDevices items items')
    (h : List.Forall₂ Describes items devices) : List.Forall₂ Describes items' devices := by
  induction alike generalizing devices with
  | nil => exact h
  | cons alike _ ih =>
    obtain ⟨device, devices, first, rest, rfl⟩ := List.forall₂_cons_left_iff.1 h
    exact .cons (alike.describes first) (ih rest)

theorem ListsAlike.lists (alike : d.ListsAlike d') (proper : d.Proper) (h : d.Lists devices) :
    d'.Lists devices := by
  obtain ⟨items, items', given, given', alike⟩ := alike
  obtain ⟨_, ⟨⟩, describes⟩ := (LeftWith.iff_of_given proper.gives_unique given).1 h
  exact .inl ⟨_, given', items', rfl, describes_of_alike alike describes⟩

end Datum

/-! ## Documents -/

namespace Config

variable {d : Datum}

/-- The document can be read. -/
structure Readable (d : Datum) : Prop where
  /-- A section that is given is one. -/
  sections : ∀ home ∈ Place.sections, ∀ x, d.Gives home x → x.IsSection
  /-- A setting that is given has a value of its kind. -/
  settings : ∀ s ∈ Setting.all, ∀ x, s.Given d x → ∃ v, s.Means x v
  /-- The devices, if they are given, are a list of entries each of which is one. -/
  devices : ∀ x, d.Gives .devices x → ∃ items, x = .list items ∧ ∀ item ∈ items, item.IsDevice

theorem read?_eq_some_iff (proper : d.Proper) {c : Config} :
    read? d = some c ↔ d.IsSection ∧ (∀ home ∈ Place.sections, ∀ x, d.Gives home x → x.IsSection) ∧
      (∀ s ∈ Setting.all, s.Settled d (s.value c)) ∧ d.Lists c.devices := by
  have read : read? d = some c ↔ d.IsSection ∧
      (∀ k : Section, LeftWith (d.Gives k.home) (fun x v => k.read? x = some v) k.default
        (k.part c)) ∧
      LeftWith (d.Gives .devices) (fun x devices =>
        x.asListOf (DesiredDevice.read? .configuration) = some devices) [] c.devices := by
    rw [Section.forall_iff_and]
    obtain ⟨_, _, _, _, _⟩ := c
    refine proper.bind_fields_iff fun fields of => ?_
    simp [of.withDefault_iff, Option.bind_eq_some_iff, Section.home, Section.read?,
      Section.default, Section.part, Place.provider, Place.scheduler, Place.pools, Place.probe,
      Place.devices, and_assoc]
  have sections := Section.forall_iff (P := fun home => ∀ x, d.Gives home x → x.IsSection)
    (Q := fun s => s.Settled d (s.value c))
  rw [read, ← Datum.lists_iff_read proper]
  simp only [Section.leftWith_iff _ proper]
  rw [sections, and_assoc]

theorem exists_read?_iff (proper : d.Proper) (isSection : d.IsSection) :
    (∃ c, read? d = some c) ↔ Readable d := by
  simp only [read?_eq_some_iff proper]
  constructor
  · rintro ⟨c, -, sections, settled, listed⟩
    exact ⟨sections, fun s mem => (Setting.exists_settled_iff proper).1 ⟨_, settled s mem⟩,
      (Datum.exists_lists_iff proper).1 ⟨_, listed⟩⟩
  · intro readable
    have chosen : ∀ s ∈ Setting.all, ∃ v, s.Settled d v :=
      fun s mem => (Setting.exists_settled_iff proper).2 (readable.settings s mem)
    obtain ⟨devices, listed⟩ := (Datum.exists_lists_iff proper).2 readable.devices
    simp only [Setting.all, Setting.ofProvider, Setting.ofScheduler, Setting.ofPools,
      Setting.ofProbe, List.cons_append, List.nil_append, List.forall_mem_cons] at chosen ⊢
    obtain ⟨⟨appId, h₁⟩, ⟨scheme, h₂⟩, ⟨logLevel, h₃⟩, ⟨initialDelaySecs, h₄⟩, ⟨periodSecs, h₅⟩,
      ⟨eventWorkers, h₆⟩, ⟨connectionWorkers, h₇⟩, ⟨timeoutMs, h₈⟩, -⟩ := chosen
    exact ⟨⟨⟨appId, scheme, logLevel⟩, ⟨initialDelaySecs, periodSecs⟩,
      ⟨eventWorkers, connectionWorkers⟩, ⟨timeoutMs⟩, devices⟩, isSection, readable.sections,
      ⟨h₁, h₂, h₃, h₄, h₅, h₆, h₇, h₈, List.forall_mem_nil _⟩, listed⟩

end Config

/-! ## Files -/

/-- The provider runs with what the document leaves its settings with. -/
structure Settings.Follows (settings : Settings) (d : Datum) : Prop where
  appId : Config.Setting.appId.Settled d settings.appId
  scheme : Config.Setting.scheme.Settled d settings.scheme
  initialDelay : ∃ secs : Nat, Config.Setting.initialDelaySecs.Settled d secs ∧
    settings.initialDelay = 1000 * secs
  /-- Passes are at least a second apart. -/
  period : ∃ secs : Nat, Config.Setting.periodSecs.Settled d secs ∧
    settings.period = 1000 * max secs 1
  eventWorkers : Config.Setting.eventWorkers.Settled d settings.eventWorkers
  connectionWorkers : Config.Setting.connectionWorkers.Settled d settings.connectionWorkers
  probeTimeout : Config.Setting.timeoutMs.Settled d settings.probeTimeout

theorem Config.settings_follows {c : Config} {d : Datum}
    (settled : ∀ s ∈ Setting.all, s.Settled d (s.value c)) : c.settings.Follows d := by
  simp only [Setting.all, Setting.ofProvider, Setting.ofScheduler, Setting.ofPools,
    Setting.ofProbe, List.cons_append, List.nil_append, List.forall_mem_cons] at settled
  obtain ⟨appId, scheme, -, initialDelay, period, eventWorkers, connectionWorkers, timeout, -⟩ :=
    settled
  exact ⟨appId, scheme, ⟨_, initialDelay, rfl⟩, ⟨_, period, rfl⟩, eventWorkers, connectionWorkers,
    timeout⟩

/-- What is relied on of a reader of documents: it reads tables, and no key stands twice in them, at
any depth. -/
structure ReadsTables (document? : String → Option Datum) : Prop where
  proper : ∀ {text d}, document? text = some d → d.Proper
  isTable : ∀ {text d}, document? text = some d → ∃ entries, d = .table entries

theorem Toml.readsTables : ReadsTables Toml.read? where
  proper read := (Toml.proper_of_read? read).1
  isTable read := (Toml.proper_of_read? read).2

namespace ConfigFile

variable {document? : String → Option Datum} {f : ConfigFile} {d : Datum}

/-- The file holds the document, as documents are read. -/
def HoldsBy (document? : String → Option Datum) (f : ConfigFile) (d : Datum) : Prop :=
  ∃ bytes text, f = .content bytes ∧ String.fromUTF8? bytes = some text ∧ document? text = some d

namespace HoldsBy

theorem proper (tables : ReadsTables document?) (holds : f.HoldsBy document? d) : d.Proper := by
  obtain ⟨_, _, -, -, read⟩ := holds
  exact tables.proper read

theorem isSection (tables : ReadsTables document?) (holds : f.HoldsBy document? d) :
    d.IsSection := by
  obtain ⟨_, _, -, -, read⟩ := holds
  obtain ⟨entries, rfl⟩ := tables.isTable read
  trivial

theorem loadWith_eq_ok_iff (holds : f.HoldsBy document? d) {c : Config} :
    Config.loadWith document? f = .ok c ↔ Config.read? d = some c := by
  obtain ⟨bytes, text, rfl, decoded, read⟩ := holds
  rw [Config.loadWith, decoded]
  simp only [read, Option.bind_eq_bind, Option.bind_some]
  cases Config.read? d <;> simp

theorem settled (tables : ReadsTables document?) (holds : f.HoldsBy document? d) {c : Config}
    (loaded : Config.loadWith document? f = .ok c) :
    (∀ s ∈ Config.Setting.all, s.Settled d (s.value c)) ∧ d.Lists c.devices :=
  ((Config.read?_eq_some_iff (holds.proper tables)).1 (holds.loadWith_eq_ok_iff.1 loaded)).2.2

/-- Whatever reads the documents, as long as it reads tables without a key that stands twice, a
document is read field by field. -/
theorem read_apart (tables : ReadsTables document?) (holds : f.HoldsBy document? d) :
    ((∃ c, Config.loadWith document? f = .ok c) ↔ Config.Readable d) ∧
    (∀ c, Config.loadWith document? f = .ok c →
      (∀ s ∈ Config.Setting.all, s.Settled d (s.value c)) ∧ d.Lists c.devices ∧
      c.settings.Follows d) ∧
    (∀ f' d' c c', HoldsBy document? f' d' → Config.loadWith document? f = .ok c →
      Config.loadWith document? f' = .ok c' →
      (∀ s ∈ Config.Setting.all, (∀ x, s.Given d x ↔ s.Given d' x) → s.value c = s.value c') ∧
      (d.ListsAlike d' → c.devices = c'.devices)) ∧
    ∀ appId devices, Config.devicesFor (Config.loadWith document? f) appId = .ok devices ↔
      ∃ c, Config.loadWith document? f = .ok c ∧ c.provider.appId = appId ∧
        devices = c.devices := by
  have proper := holds.proper tables
  refine ⟨?_, ?_, ?_, ?_⟩
  · simp only [holds.loadWith_eq_ok_iff]
    exact Config.exists_read?_iff proper (holds.isSection tables)
  · intro c loaded
    obtain ⟨settled, listed⟩ := holds.settled tables loaded
    exact ⟨settled, listed, Config.settings_follows settled⟩
  · intro f' d' c c' holds' loaded loaded'
    obtain ⟨settled, listed⟩ := holds.settled tables loaded
    obtain ⟨settled', listed'⟩ := holds'.settled tables loaded'
    exact ⟨fun s mem same => (settled s mem).eq (settled' s mem) proper same,
      fun alike => (alike.lists proper listed).eq (holds'.proper tables) listed'⟩
  · intro appId devices
    cases Config.loadWith document? f with
    | error e => simp [Config.devicesFor]
    | ok c =>
      by_cases own : c.provider.appId = appId
      · simp [Config.devicesFor, own, eq_comm]
      · simp [Config.devicesFor, own]

end HoldsBy

/-- The file holds the document. -/
def Holds (f : ConfigFile) (d : Datum) : Prop := f.HoldsBy Toml.read? d

theorem holds_of_read? {text : String} (read : Toml.read? text = some d) :
    (content text.toUTF8).Holds d :=
  ⟨_, text, rfl, dif_pos text.isValidUTF8, read⟩

namespace Holds

/-- A document is read field by field.  It can be read exactly if all that it gives for fields that
are known is of their kind.  Then each setting is what is given for it, or its own default; the
devices are those that are listed; and the provider runs with these settings, and with these
devices if they are those of its application. -/
theorem fields_apart (holds : f.Holds d) :
    ((∃ c, Config.load f = .ok c) ↔ Config.Readable d) ∧
    (∀ c, Config.load f = .ok c →
      (∀ s ∈ Config.Setting.all, s.Settled d (s.value c)) ∧ d.Lists c.devices ∧
      c.settings.Follows d) ∧
    -- What two files do not agree on has no say in what they agree on.
    (∀ f' d' c c', Holds f' d' → Config.load f = .ok c → Config.load f' = .ok c' →
      (∀ s ∈ Config.Setting.all, (∀ x, s.Given d x ↔ s.Given d' x) → s.value c = s.value c') ∧
      (d.ListsAlike d' → c.devices = c'.devices)) ∧
    ∀ appId devices, (ConfigSource.file f).desiredDevices appId = .ok devices ↔
      ∃ c, Config.load f = .ok c ∧ c.provider.appId = appId ∧ devices = c.devices :=
  HoldsBy.read_apart Toml.readsTables holds

end Holds

/-- Devices and sections in both forms, a period of no seconds and an unknown key. -/
def mixedText : String :=
  "devices = [\x7bport = 830, password = '', rack = 7, address = '10.0.0.1', username = 'a'\x7d, "
    ++ "['10.0.0.2', 22, 'b', 'secret', 'KEY']]\nprobe = [500]\n[scheduler]\nperiod_secs = 0\n"

/-- The file with that text. -/
def mixed : ConfigFile := .content mixedText.toUTF8

/-- The document in that file. -/
def mixedDocument : Datum :=
  .table [
    ("devices", .list [
      .table [("port", .integer 830), ("password", .text ""), ("rack", .integer 7),
        ("address", .text "10.0.0.1"), ("username", .text "a")],
      .list [.text "10.0.0.2", .integer 22, .text "b", .text "secret", .text "KEY"]]),
    ("probe", .list [.integer 500]),
    ("scheduler", .table [("period_secs", .integer 0)])]

/-- What is read from it. -/
def mixedConfig : Config where
  provider := .default
  scheduler := ⟨3, 0⟩
  pools := .default
  probe := ⟨500⟩
  devices := [⟨"10.0.0.1", 830, "a", "", none⟩, ⟨"10.0.0.2", 22, "b", "secret", some "KEY"⟩]

set_option maxRecDepth 2000 in
theorem read?_mixedText : Toml.read? mixedText = some mixedDocument := by
  unfold mixedText
  simp only [Toml.read?, String.toList_append, String.reduceToList]
  rfl

theorem Holds.fields_apart_mixed :
    mixed.Holds mixedDocument ∧ Config.Readable mixedDocument ∧
      Config.load mixed = .ok mixedConfig ∧
      (∀ s ∈ Config.Setting.all, s.Settled mixedDocument (s.value mixedConfig)) ∧
      mixedDocument.Lists mixedConfig.devices ∧ mixedConfig.settings.Follows mixedDocument ∧
      mixedConfig.settings.period = 1000 ∧
      (ConfigSource.file mixed).desiredDevices "org.nelm.provider" = .ok mixedConfig.devices := by
  have holds : mixed.Holds mixedDocument := holds_of_read? read?_mixedText
  have loaded : Config.load mixed = .ok mixedConfig :=
    (HoldsBy.loadWith_eq_ok_iff holds).2 (by decide)
  obtain ⟨readable, left, -, told⟩ := holds.fields_apart
  obtain ⟨settled, listed, follows⟩ := left _ loaded
  exact ⟨holds, readable.1 ⟨_, loaded⟩, loaded, settled, listed, follows, rfl,
    (told _ _).2 ⟨_, loaded, rfl, rfl⟩⟩

/-- A date stands where a section is known, and the file is read as if nothing stood there. -/
theorem moment_passes_for_section :
    let f := ConfigFile.content (String.toUTF8 "provider = 1979-05-27")
    let d := Datum.table [("provider", .moment)]
    f.Holds d ∧ Config.load f = .ok .default ∧ ∃ home ∈ Place.sections, ∃ x, d.Gives home x ∧
      (∀ entries, x ≠ .table entries) ∧ ∀ items, x ≠ .list items := by
  intro f d
  have read : Toml.read? "provider = 1979-05-27" = some d := by
    simp only [Toml.read?, String.reduceToList]
    rfl
  have holds : f.Holds d := holds_of_read? read
  refine ⟨holds, (HoldsBy.loadWith_eq_ok_iff holds).2 (by decide), .provider, ?_, .moment, ?_, nofun,
    nofun⟩
  · exact List.mem_cons_self
  · exact List.mem_cons_self

end ConfigFile

end Southbound
