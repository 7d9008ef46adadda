import Cml.Rename

set_option autoImplicit false

namespace Cml

def moveTargetState : CompartmentState → Bool
  | .booting | .running | .starting => true
  | _ => false

def setMovedPnetCfg (s : Hotplug) (found : Option NetdevMapping) (cfg : PnetCfg) : Hotplug :=
  match found with
  | some mapping => { s with pnetCfgs := Function.update s.pnetCfgs mapping.pnetCfg cfg }
  | none => s

/-- `hotplug_netdev_move`: into the container of the first mapping with the interface's MAC, sharing
its configuration, or else into `c0`; a rename writes the new name into the configuration. -/
def hotplugNetdevMove (s : Hotplug) (host : Host) (event : UeventEvent) :
    Hotplug × Int × List Call :=
  match host.macByIfname event.interface with
  | none => (s, -1, [])
  | some ifaceMac =>
      let found := s.netdevMappings.find? (·.mac == ifaceMac)
      let target := match found with
        | some mapping => some mapping.container
        | none => host.c0
      let pnetCfg := match found with
        | some mapping => s.pnetCfgs mapping.pnetCfg
        | none => containerPnetCfgNew event.interface false
      match target with
      | none => (s, -1, [])
      | some container =>
          if !moveTargetState (host.state container) then (s, -1, [])
          else
            let renamed := hotplugRenameInterface s host event
            let moved : Hotplug × UeventEvent × PnetCfg := match renamed.2.1 with
              | some newevent =>
                  let cfg := containerPnetCfgSetPnetName pnetCfg newevent.interface
                  (setMovedPnetCfg renamed.1 found cfg, newevent, cfg)
              | none => (renamed.1, event, pnetCfg)
            let calls := renamed.2.2 ++ [.addNetIface container moved.2.2]
            if !host.addNetIface container moved.2.2 then (moved.1, -1, calls)
            else if moved.2.2.macFilter then (moved.1, 0, calls)
            else (moved.1, 0, calls ++ [.injectIntoNetns moved.2.1 container])

/-- `hotplug_sysfs_netif_timer_cb`: a wlan interface that sysfs does not yet show as wireless
leaves the timer armed for its next firing; otherwise the move is made and the timer removed. -/
def hotplugSysfsNetifTimerCb (s : Hotplug) (host : Host) (id : Nat) (event : UeventEvent) :
    Hotplug × List Call :=
  if event.devtype == "wlan" && !host.isWifi event.interface then (s, [])
  else
    let moved := hotplugNetdevMove s host event
    (moved.1.removeTimer id, moved.2.2)

section Move

variable (s : Hotplug) (host : Host) (event : UeventEvent)

theorem hotplugNetdevMove_cases :
    (hotplugNetdevMove s host event).1 = s ∨
    (hotplugNetdevMove s host event).1 = (hotplugRenameInterface s host event).1 ∨
    ∃ newevent found,
      (hotplugRenameInterface s host event).2.1 = some newevent ∧
      (hotplugNetdevMove s host event).1 = setMovedPnetCfg (hotplugRenameInterface s host event).1
        found ⟨newevent.interface, (match found with
          | some mapping => s.pnetCfgs mapping.pnetCfg
          | none => containerPnetCfgNew event.interface false).macFilter⟩ := by
  simp only [hotplugNetdevMove]
  split
  · exact .inl rfl
  · split
    · exact .inl rfl
    · split
      · exact .inl rfl
      · cases renamed : (hotplugRenameInterface s host event).2.1 with
        | none => right; left; split_ifs <;> simp [renamed]
        | some newevent =>
            rename_i ifaceMac _ _ _ _ _
            right; right
            refine ⟨newevent, s.netdevMappings.find? (·.mac == ifaceMac), rfl, ?_⟩
            split_ifs <;> simp [renamed, containerPnetCfgSetPnetName]

theorem setMovedPnetCfg_keeps (found : Option NetdevMapping) (cfg : PnetCfg) :
    KeepsTables s (setMovedPnetCfg s found cfg) := by
  cases found <;> exact ⟨rfl, rfl, rfl, rfl, rfl⟩

theorem hotplugNetdevMove_keeps : KeepsTables s (hotplugNetdevMove s host event).1 := by
  have renamed := (hotplugRenameInterface_keeps s host event).1
  rcases hotplugNetdevMove_cases s host event with same | same | ⟨_, found, _, same⟩ <;>
    rw [same]
  · exact .refl s
  · exact renamed
  · exact renamed.trans (setMovedPnetCfg_keeps _ found _)

theorem hotplugNetdevMove_pnetCfgs (pnetCfg : Nat) :
    (hotplugNetdevMove s host event).1.pnetCfgs pnetCfg = s.pnetCfgs pnetCfg ∨
      ∃ infixStr idx,
        ((hotplugNetdevMove s host event).1.pnetCfgs pnetCfg).pnetName = ifiName infixStr idx := by
  have renamed := (hotplugRenameInterface_keeps s host event).2
  rcases hotplugNetdevMove_cases s host event with
    same | same | ⟨newevent, found, named, same⟩ <;> rw [same]
  · exact .inl rfl
  · exact .inl (congrFun renamed pnetCfg)
  · obtain ⟨infixStr, idx, printed⟩ :=
      hotplugRenameInterface_interface s host event newevent named
    cases found with
    | none => exact .inl (congrFun renamed pnetCfg)
    | some mapping =>
        by_cases here : pnetCfg = mapping.pnetCfg
        · subst here
          exact .inr ⟨infixStr, idx, by simp [setMovedPnetCfg, printed]⟩
        · left
          simp [setMovedPnetCfg, here, renamed]

theorem hotplugNetdevMove_calls :
    ∀ call ∈ (hotplugNetdevMove s host event).2.2, call.isDevice = false := by
  obtain ⟨newname, renamed⟩ := hotplugRenameInterface_calls s host event
  simp only [hotplugNetdevMove]
  split
  · simp
  · split
    · simp
    · split
      · simp
      · split_ifs <;> simp only [renamed, List.mem_append, List.mem_singleton] <;>
          rintro call ((rfl | rfl) | rfl) <;> rfl

end Move

end Cml
