import Cml.State

set_option autoImplicit false

namespace Cml

/-- The name `asprintf(&newname, "%s%s%d", "cml", infix, idx)` prints. -/
def ifiName (infixStr : String) (idx : UInt32) : String :=
  "cml" ++ infixStr ++ formatD idx

/-- `hotplug_rename_ifi_new`: the name from the wlan counter or the shared one, which advances
whatever the kernel answers; returned only when `network_rename_ifi` succeeds. -/
def hotplugRenameIfiNew (s : Hotplug) (host : Host) (oldname infixStr : String) :
    Hotplug × Option String × List Call :=
  let wlan := infixStr == "wlan"
  let idx := if wlan then s.wlanIdx else s.ethIdx
  let newname := ifiName infixStr idx
  (if wlan then { s with wlanIdx := idx + 1 } else { s with ethIdx := idx + 1 },
    if host.renameIfi oldname newname then some newname else none,
    [.renameIfi oldname newname])

/-- `hotplug_replace_devpath_new`: the first occurrence of `oldstr` replaced by `newstr`; the
`unsigned int` offsets of the source agree for strings under `2 ^ 32` characters. -/
def hotplugReplaceDevpathNew (str oldstr newstr : String) : Option String :=
  (strstr str.data oldstr.data).map fun offOld =>
    ⟨str.data.take offOld ++ newstr.data ++ str.data.drop (offOld + oldstr.length)⟩

def replacePhysName (phys : List String) (oldname newname : String) : List String :=
  let removed := cmldNetifPhysRemoveByName phys oldname
  if removed.1 then cmldNetifPhysAddByName removed.2 newname else removed.2

/-- The event copy `hotplug_rename_interface` builds after the kernel rename: the devpath
rewritten, then the interface and the devpath members replaced; `none` if a step fails. -/
def renamedUevent (host : Host) (event : UeventEvent) (newIfname : String) :
    Option UeventEvent :=
  (hotplugReplaceDevpathNew event.devpath event.interface newIfname).bind fun newDevpath =>
    (ueventReplaceMember host event .interface newIfname).bind fun uevChname =>
      ueventReplaceMember host uevChname .devpath newDevpath

def renameInfix (event : UeventEvent) : String :=
  if event.devtype.isEmpty then "eth" else event.devtype

/-- `hotplug_rename_interface`: the kernel rename and cmld's list update, then the renamed
event, `none` on any failure. -/
def hotplugRenameInterface (s : Hotplug) (host : Host) (event : UeventEvent) :
    Hotplug × Option UeventEvent × List Call :=
  let renamed := hotplugRenameIfiNew s host event.interface (renameInfix event)
  match renamed.2.1 with
  | none => (renamed.1, none, renamed.2.2)
  | some newIfname =>
      ({ renamed.1 with
          netifPhys := replacePhysName renamed.1.netifPhys event.interface newIfname },
        renamedUevent host event newIfname, renamed.2.2)

/-- The loop of `hotplug_init` over cmld's physical interfaces: each is renamed with the infix
`wlan` or `eth`, and its entry replaced by the new name when the rename succeeds. -/
def hotplugInitLoop (host : Host) : Hotplug → List String → Hotplug × List String × List Call
  | s, [] => (s, [], [])
  | s, ifname :: rest =>
      let renamed :=
        hotplugRenameIfiNew s host ifname (if host.isWifi ifname then "wlan" else "eth")
      let later := hotplugInitLoop host renamed.1 rest
      (later.1, renamed.2.1.getD ifname :: later.2.1, renamed.2.2 ++ later.2.2)

/-- `hotplug_init` up to the registration of the uevent handler, which belongs to the event
loop. Nothing is renamed in hosted mode. -/
def hotplugInit (s : Hotplug) (host : Host) (hostedMode : Bool) : Hotplug × List Call :=
  if hostedMode then (s, [])
  else
    let looped := hotplugInitLoop host s s.netifPhys
    ({ looped.1 with netifPhys := looped.2.1 }, looped.2.2)

section Counter

variable (s : Hotplug) (host : Host) (oldname infixStr : String)

theorem hotplugRenameIfiNew_eth (other : infixStr ≠ "wlan") :
    hotplugRenameIfiNew s host oldname infixStr =
      ({ s with ethIdx := s.ethIdx + 1 },
        if host.renameIfi oldname (ifiName infixStr s.ethIdx) then some (ifiName infixStr s.ethIdx)
        else none,
        [.renameIfi oldname (ifiName infixStr s.ethIdx)]) := by
  simp [hotplugRenameIfiNew, other]

theorem hotplugRenameIfiNew_wlan :
    hotplugRenameIfiNew s host oldname "wlan" =
      ({ s with wlanIdx := s.wlanIdx + 1 },
        if host.renameIfi oldname (ifiName "wlan" s.wlanIdx) then
          some (ifiName "wlan" s.wlanIdx)
        else none,
        [.renameIfi oldname (ifiName "wlan" s.wlanIdx)]) := by
  simp [hotplugRenameIfiNew]

theorem hotplugRenameIfiNew_name (newname : String)
    (renamed : (hotplugRenameIfiNew s host oldname infixStr).2.1 = some newname) :
    newname = ifiName infixStr (if infixStr = "wlan" then s.wlanIdx else s.ethIdx) := by
  by_cases wlan : infixStr = "wlan"
  · subst wlan
    simp only [hotplugRenameIfiNew_wlan, Option.ite_none_right_eq_some] at renamed
    obtain ⟨-, printed⟩ := renamed
    simpa using printed.symm
  · simp only [hotplugRenameIfiNew_eth s host oldname infixStr wlan,
      Option.ite_none_right_eq_some] at renamed
    obtain ⟨-, printed⟩ := renamed
    simpa [wlan] using printed.symm

end Counter

structure KeepsTables (s r : Hotplug) : Prop where
  devMappings : r.devMappings = s.devMappings
  netdevMappings : r.netdevMappings = s.netdevMappings
  retries : r.retries = s.retries
  timers : r.timers = s.timers
  nextTimer : r.nextTimer = s.nextTimer

theorem KeepsTables.trans {s r t : Hotplug} (first : KeepsTables s r) (second : KeepsTables r t) :
    KeepsTables s t :=
  ⟨second.1.trans first.1, second.2.trans first.2, second.3.trans first.3,
    second.4.trans first.4, second.5.trans first.5⟩

theorem KeepsTables.refl (s : Hotplug) : KeepsTables s s := ⟨rfl, rfl, rfl, rfl, rfl⟩

theorem hotplugRenameIfiNew_keeps (s : Hotplug) (host : Host) (oldname infixStr : String) :
    KeepsTables s (hotplugRenameIfiNew s host oldname infixStr).1 ∧
      (hotplugRenameIfiNew s host oldname infixStr).1.pnetCfgs = s.pnetCfgs := by
  simp only [hotplugRenameIfiNew]
  split <;> exact ⟨⟨rfl, rfl, rfl, rfl, rfl⟩, rfl⟩

theorem hotplugRenameInterface_keeps (s : Hotplug) (host : Host) (event : UeventEvent) :
    KeepsTables s (hotplugRenameInterface s host event).1 ∧
      (hotplugRenameInterface s host event).1.pnetCfgs = s.pnetCfgs := by
  obtain ⟨keeps, cfgs⟩ := hotplugRenameIfiNew_keeps s host event.interface (renameInfix event)
  simp only [hotplugRenameInterface]
  split
  · exact ⟨keeps, cfgs⟩
  · exact ⟨⟨keeps.1, keeps.2, keeps.3, keeps.4, keeps.5⟩, cfgs⟩

theorem hotplugRenameInterface_calls (s : Hotplug) (host : Host) (event : UeventEvent) :
    ∃ newname,
      (hotplugRenameInterface s host event).2.2 = [.renameIfi event.interface newname] := by
  simp only [hotplugRenameInterface]
  split <;> exact ⟨_, rfl⟩

theorem hotplugInitLoop_keeps (host : Host) (s : Hotplug) (names : List String) :
    KeepsTables s (hotplugInitLoop host s names).1 ∧
      (hotplugInitLoop host s names).1.pnetCfgs = s.pnetCfgs := by
  induction names generalizing s with
  | nil => exact ⟨.refl s, rfl⟩
  | cons ifname rest ih =>
      obtain ⟨keeps, cfgs⟩ := hotplugRenameIfiNew_keeps s host ifname
        (if host.isWifi ifname then "wlan" else "eth")
      exact ⟨keeps.trans (ih _).1, (ih _).2.trans cfgs⟩

theorem hotplugInit_keeps (s : Hotplug) (host : Host) (hostedMode : Bool) :
    KeepsTables s (hotplugInit s host hostedMode).1 ∧
      (hotplugInit s host hostedMode).1.pnetCfgs = s.pnetCfgs := by
  unfold hotplugInit
  split
  · exact ⟨.refl s, rfl⟩
  · obtain ⟨⟨mappings, netdevs, retries, timers, next⟩, cfgs⟩ :=
      hotplugInitLoop_keeps host s s.netifPhys
    exact ⟨⟨mappings, netdevs, retries, timers, next⟩, cfgs⟩

theorem renamedUevent_interface (host : Host) (event newevent : UeventEvent) (newIfname : String)
    (renamed : renamedUevent host event newIfname = some newevent) :
    newevent.interface = newIfname := by
  simp only [renamedUevent, ueventReplaceMember, Option.bind_eq_some,
    Option.ite_none_right_eq_some, Option.some.injEq] at renamed
  obtain ⟨_, _, _, ⟨_, rfl⟩, _, rfl⟩ := renamed
  rfl

theorem hotplugRenameInterface_interface (s : Hotplug) (host : Host)
    (event newevent : UeventEvent)
    (renamed : (hotplugRenameInterface s host event).2.1 = some newevent) :
    ∃ infixStr idx, newevent.interface = ifiName infixStr idx := by
  simp only [hotplugRenameInterface] at renamed
  split at renamed
  · cases renamed
  · rename_i newIfname named
    exact ⟨_, _, (renamedUevent_interface host event newevent newIfname renamed).trans
      (hotplugRenameIfiNew_name _ _ _ _ newIfname named)⟩

def renameIfiRun (host : Host) :
    Hotplug → List (String × String) → Hotplug × List (Option String)
  | s, [] => (s, [])
  | s, (oldname, infixStr) :: rest =>
      let renamed := hotplugRenameIfiNew s host oldname infixStr
      let later := renameIfiRun host renamed.1 rest
      (later.1, renamed.2.1 :: later.2)

theorem uint32_toNat_ofNat (n : Nat) : (UInt32.ofNat n).toNat = n % 2 ^ 32 := by
  simp [UInt32.ofNat, UInt32.toNat, BitVec.toNat_ofNat]

theorem uint32_toNat_add_one (x : UInt32) : (x + 1).toNat = (x.toNat + 1) % 2 ^ 32 := by
  simp [UInt32.toNat, UInt32.add_def, BitVec.toNat_add]

theorem uint32_ofNat_succ (x : UInt32) (k : Nat) :
    UInt32.ofNat ((x + 1).toNat + k) = UInt32.ofNat (x.toNat + (k + 1)) := by
  apply UInt32.toNat.inj
  simp only [uint32_toNat_ofNat, uint32_toNat_add_one]
  omega

theorem uint32_ofNat_toNat (x : UInt32) : UInt32.ofNat x.toNat = x := by
  apply UInt32.toNat.inj
  rw [uint32_toNat_ofNat]
  exact Nat.mod_eq_of_lt x.toNat_lt_size

theorem renameIfiRun_ethIdx (host : Host) (s : Hotplug) (calls : List (String × String))
    (other : ∀ call ∈ calls, call.2 ≠ "wlan") :
    (renameIfiRun host s calls).1.ethIdx = UInt32.ofNat (s.ethIdx.toNat + calls.length) := by
  induction calls generalizing s with
  | nil => simp [renameIfiRun, uint32_ofNat_toNat]
  | cons call rest ih =>
      obtain ⟨oldname, infixStr⟩ := call
      have first : infixStr ≠ "wlan" := other (oldname, infixStr) (List.mem_cons_self _ _)
      have later := ih (hotplugRenameIfiNew s host oldname infixStr).1
        (fun call mem => other call (List.mem_cons_of_mem _ mem))
      simp only [hotplugRenameIfiNew_eth s host oldname infixStr first] at later
      simpa [renameIfiRun, hotplugRenameIfiNew_eth s host oldname infixStr first,
        uint32_ofNat_succ] using later

/-- After `2^32` renames that are not wlan the shared counter is back at `0`: rename `2^32 + 1`
gives `cmleth0` again, and rename `2^31 + 1` prints a negative index. -/
theorem rename_ifi_new_repeats_cmleth0 :
    let host : Host :=
      { fileExists := fun _ => false
        fileRead := fun _ => none
        isWifi := fun _ => false
        macByIfname := fun _ => none
        renameIfi := fun _ _ => true
        replaceMember := fun _ _ => true
        c0 := none
        state := fun _ => .running
        addNetIface := fun _ _ => true }
    let start := Hotplug.new (fun _ => ⟨"", false⟩) []
    (hotplugRenameIfiNew start host "eth7" "eth").2.1 = some "cmleth0" ∧
    (hotplugRenameIfiNew (renameIfiRun host start (List.replicate (2 ^ 31 - 1) ("eth7", "eth"))).1
      host "eth7" "eth").2.1 = some "cmleth2147483647" ∧
    (hotplugRenameIfiNew (renameIfiRun host start (List.replicate (2 ^ 31) ("eth7", "eth"))).1
      host "eth7" "eth").2.1 = some "cmleth-2147483648" ∧
    (hotplugRenameIfiNew (renameIfiRun host start (List.replicate (2 ^ 32) ("eth7", "eth"))).1
      host "eth7" "eth").2.1 = some "cmleth0" := by
  intro host start
  have other : ∀ n, ∀ call ∈ List.replicate n ("eth7", "eth"), call.2 ≠ "wlan" := by
    intro n call mem
    rw [List.eq_of_mem_replicate mem]
    decide
  have eth : ("eth" : String) ≠ "wlan" := by decide
  refine ⟨?_, ?_, ?_, ?_⟩ <;>
    rw [hotplugRenameIfiNew_eth _ _ _ _ eth]
  · decide
  all_goals rw [renameIfiRun_ethIdx _ _ _ (other _), List.length_replicate]; decide

end Cml
