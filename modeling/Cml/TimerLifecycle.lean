import Cml.NetifTimer
import Cml.TokenTimer

set_option autoImplicit false

namespace Cml

/-! # Timer lifecycles over whole runs

`hotplug_handle_usb_device` and `hotplug_handle_uevent_cb` arm timers, and each callback removes
only its own timer, freeing its data with it (`event_remove_timer(timer)` in
`hotplug_token_timer_cb` and `hotplug_sysfs_netif_timer_cb`). Nothing else removes a timer. So an
armed timer keeps its data until its own handle fires, and once a callback has removed its timer,
no later turn hands that data to a callback again. -/

def Input.fires (id : Nat) : Input → Bool
  | .fire other _ => other == id
  | _ => false

section Step

variable (s : Hotplug)

theorem fire_timers (host : Host) (id : Nat) :
    (s.fire host id).1.timers = s.timers ∨
      (s.fire host id).1.timers = s.timers.filter (·.id != id) := by
  rcases fire_cases s host id with same | ⟨data, -, same⟩ | ⟨event, -, same⟩ <;> rw [same]
  · exact .inl rfl
  · rcases hotplugTokenTimerCb_cases s host id data with
      ⟨-, same⟩ | ⟨-, -, same⟩ | ⟨-, -, same⟩ <;> rw [same]
    · exact .inr rfl
    · exact .inl rfl
    · exact .inr rfl
  · rcases hotplugSysfsNetifTimerCb_cases s host id event with ⟨-, same⟩ | ⟨-, same⟩ <;>
      rw [same]
    · exact .inl rfl
    · exact .inr (by simp [(hotplugNetdevMove_keeps s host event).timers])

def ArmsAfter (s r : Hotplug) : Prop :=
  s.nextTimer ≤ r.nextTimer ∧
    ∃ armed, r.timers = s.timers ++ armed ∧ ∀ timer ∈ armed, s.nextTimer ≤ timer.id

theorem ArmsAfter.addTimer {r : Hotplug} (after : ArmsAfter s r) (data : TimerData) :
    ArmsAfter s (r.addTimer data) := by
  obtain ⟨grows, armed, timers, fresh⟩ := after
  refine ⟨Nat.le_succ_of_le grows, armed ++ [⟨r.nextTimer, data⟩], by simp [timers], ?_⟩
  simp only [List.mem_append, List.mem_singleton]
  rintro timer (old | rfl)
  · exact fresh timer old
  · exact grows

theorem hotplugHandleUsbDevice_armsAfter (actions : Actions) (event : UeventEvent) (host : Host) :
    ArmsAfter s (hotplugHandleUsbDevice s actions event host).1 := by
  rcases hotplugHandleUsbDevice_cases s actions event host with
    same | ⟨serial, -, -, -, same⟩ <;> rw [same]
  · exact ⟨Nat.le_refl _, [], by simp, by simp⟩
  · rw [addTimers_eq]
    exact ⟨Nat.le_add_right _ _, _, rfl, fun timer mem => (freshTimers_id _ _ timer mem).1⟩

theorem hotplugHandleUeventCb_armsAfter (actions : Actions) (event : UeventEvent) (host : Host) :
    ArmsAfter s (hotplugHandleUeventCb s actions event host).1 := by
  have usb := hotplugHandleUsbDevice_armsAfter s actions event host
  rw [hotplugHandleUeventCb_eq]
  split
  · exact ArmsAfter.addTimer s ⟨usb.1, usb.2⟩ _
  · exact usb

theorem step_timers (input : Input) :
    (∃ id host, input = .fire id host ∧ (s.step input).1.nextTimer = s.nextTimer ∧
      ((s.step input).1.timers = s.timers ∨
        (s.step input).1.timers = s.timers.filter (·.id != id))) ∨
      ArmsAfter s (s.step input).1 := by
  have kept : ∀ r : Hotplug, r.timers = s.timers → r.nextTimer = s.nextTimer →
      ArmsAfter s r := fun r timers next => ⟨next.ge, [], by simp [timers], by simp⟩
  cases input with
  | uevent actions event host => exact .inr (hotplugHandleUeventCb_armsAfter s actions event host)
  | fire id host => exact .inl ⟨id, host, rfl, (fire_frame s host id).nextTimer, fire_timers s host id⟩
  | registerUsbdevice | unregisterUsbdevice | registerNetdev | unregisterNetdev =>
      exact .inr (kept _ rfl rfl)

end Step

/-! ## Whole runs -/

section Run

variable (id : Nat)

theorem find?_filter_ne (timers : List Timer) (other : Nat) (ne : other ≠ id) :
    (timers.filter (·.id != other)).find? (·.id == id) = timers.find? (·.id == id) := by
  induction timers with
  | nil => rfl
  | cons timer rest ih =>
      by_cases here : timer.id = id
      · subst here
        simp [List.filter_cons, List.find?_cons, Ne.symm ne]
      · by_cases gone : timer.id = other <;>
          simp [List.filter_cons, List.find?_cons, here, gone, ih, beq_eq_false_iff_ne.mpr ne]

theorem step_findTimer_of_armed (s : Hotplug) (input : Input) (other : input.fires id = false)
    (data : TimerData) (armed : s.findTimer id = some data) :
    (s.step input).1.findTimer id = some data := by
  unfold Hotplug.findTimer at armed ⊢
  rcases step_timers s input with ⟨fired, host, rfl, -, same | removed⟩ | ⟨-, extra, timers, -⟩
  · rwa [same]
  · have ne : fired ≠ id := by simpa [Input.fires] using other
    rwa [removed, find?_filter_ne id _ fired ne]
  · obtain ⟨timer, found, rfl⟩ := Option.map_eq_some'.mp armed
    simp [timers, List.find?_append, found]

theorem step_unarmed (s : Hotplug) (input : Input) (issued : id < s.nextTimer)
    (unarmed : ∀ timer ∈ s.timers, timer.id ≠ id) :
    id < (s.step input).1.nextTimer ∧ ∀ timer ∈ (s.step input).1.timers, timer.id ≠ id := by
  rcases step_timers s input with
    ⟨fired, host, -, next, same | removed⟩ | ⟨grows, extra, timers, fresh⟩
  · exact ⟨next ▸ issued, same ▸ unarmed⟩
  · rw [next, removed]
    exact ⟨issued, fun timer mem => unarmed timer (List.mem_filter.mp mem).1⟩
  · refine ⟨Nat.lt_of_lt_of_le issued grows, ?_⟩
    rw [timers]
    intro timer mem
    rcases List.mem_append.mp mem with old | new
    · exact unarmed timer old
    · exact Nat.ne_of_gt (Nat.lt_of_lt_of_le issued (fresh timer new))

theorem findTimer_eq_none_iff (s : Hotplug) :
    s.findTimer id = none ↔ ∀ timer ∈ s.timers, timer.id ≠ id := by
  simp [Hotplug.findTimer]

theorem run_findTimer_of_armed (s : Hotplug) (inputs : List Input)
    (other : ∀ input ∈ inputs, input.fires id = false) (data : TimerData)
    (armed : s.findTimer id = some data) : (s.run inputs).1.findTimer id = some data := by
  induction inputs generalizing s with
  | nil => exact armed
  | cons input rest ih =>
      rw [run_cons]
      exact ih _ (fun input mem => other input (List.mem_cons_of_mem _ mem))
        (step_findTimer_of_armed id s input (other input (List.mem_cons_self _ _)) data armed)

theorem run_unarmed (s : Hotplug) (inputs : List Input) (issued : id < s.nextTimer)
    (unarmed : s.findTimer id = none) : (s.run inputs).1.findTimer id = none := by
  rw [findTimer_eq_none_iff] at unarmed ⊢
  induction inputs generalizing s with
  | nil => exact unarmed
  | cons input rest ih =>
      obtain ⟨issued, unarmed⟩ := step_unarmed id s input issued unarmed
      exact ih _ issued unarmed

end Run

def TimerData.callback (s : Hotplug) (host : Host) (id : Nat) : TimerData → Hotplug × List Call
  | .token data => hotplugTokenTimerCb s host id data
  | .netif event => hotplugSysfsNetifTimerCb s host id event

/-- An armed timer is removed only by its own firing: over any run that does not fire its handle it
stays armed with its data, and its next firing runs its own callback. -/
theorem armed_timer_kept_until_fired (s : Hotplug) (id : Nat) (data : TimerData)
    (armed : s.findTimer id = some data) (inputs : List Input)
    (other : ∀ input ∈ inputs, input.fires id = false) (host : Host) :
    (s.run inputs).1.findTimer id = some data ∧
      (s.run inputs).1.step (.fire id host) = data.callback (s.run inputs).1 host id := by
  have kept := run_findTimer_of_armed id s inputs other data armed
  refine ⟨kept, ?_⟩
  cases data <;> simp only [Hotplug.step, Hotplug.fire, kept, TimerData.callback]

theorem armed_timer_kept_until_fired_in_s1 :
    (s1Boot.run (s1Unplugged.take 2)).1.findTimer 0 =
        some (.token ⟨⟨1⟩, "/dev/bus/usb/001/003"⟩) ∧
      (∀ input ∈ s1Unplugged.drop 2, input.fires 0 = false) ∧
      ((s1Boot.run (s1Unplugged.take 2)).1.run (s1Unplugged.drop 2)).1.findTimer 0 =
        some (.token ⟨⟨1⟩, "/dev/bus/usb/001/003"⟩) ∧
      ((s1Boot.run (s1Unplugged.take 2)).1.run (s1Unplugged.drop 2)).1.step
          (.fire 0 (s1Host true)) =
        TimerData.callback ((s1Boot.run (s1Unplugged.take 2)).1.run (s1Unplugged.drop 2)).1
          (s1Host true) 0 (.token ⟨⟨1⟩, "/dev/bus/usb/001/003"⟩) :=
  have armed : (s1Boot.run (s1Unplugged.take 2)).1.findTimer 0 =
      some (.token ⟨⟨1⟩, "/dev/bus/usb/001/003"⟩) := by decide
  have other : ∀ input ∈ s1Unplugged.drop 2, input.fires 0 = false := by decide
  ⟨armed, other, armed_timer_kept_until_fired _ 0 _ armed _ other (s1Host true)⟩

/-- Once a callback has removed its timer, over every later run from a reachable state the handle
stays unarmed and its firings do nothing. -/
theorem removed_timer_never_fires_again (s : Hotplug) (reachable : Reachable s) (id : Nat)
    (host : Host) (data : TimerData) (armed : s.findTimer id = some data)
    (removed : (s.step (.fire id host)).1.findTimer id = none) (inputs : List Input)
    (later : Host) :
    ((s.step (.fire id host)).1.run inputs).1.findTimer id = none ∧
      ((s.step (.fire id host)).1.run inputs).1.step (.fire id later) =
        (((s.step (.fire id host)).1.run inputs).1, []) := by
  have issued : id < (s.step (.fire id host)).1.nextTimer := by
    obtain ⟨timer, mem, same, -⟩ := findTimer_mem armed
    rw [Hotplug.step, (fire_frame s host id).nextTimer, ← same]
    exact reachable.fresh timer mem
  have dead := run_unarmed id _ inputs issued removed
  exact ⟨dead, fire_unarmed _ id later dead⟩

theorem removed_timer_never_fires_again_in_s1 :
    (s1Boot.run (s1Unplugged.take 2)).1.findTimer 0 =
        some (.token ⟨⟨1⟩, "/dev/bus/usb/001/003"⟩) ∧
      ((s1Boot.run (s1Unplugged.take 2)).1.step (.fire 0 (s1Host true))).1.findTimer 0 = none ∧
      (((s1Boot.run (s1Unplugged.take 2)).1.step (.fire 0 (s1Host true))).1.run
          [.uevent ⟨true, false⟩ s1Event (s1Host true)]).1.findTimer 0 = none ∧
      (((s1Boot.run (s1Unplugged.take 2)).1.step (.fire 0 (s1Host true))).1.run
          [.uevent ⟨true, false⟩ s1Event (s1Host true)]).1.step (.fire 0 (s1Host true)) =
        ((((s1Boot.run (s1Unplugged.take 2)).1.step (.fire 0 (s1Host true))).1.run
          [.uevent ⟨true, false⟩ s1Event (s1Host true)]).1, []) :=
  have armed : (s1Boot.run (s1Unplugged.take 2)).1.findTimer 0 =
      some (.token ⟨⟨1⟩, "/dev/bus/usb/001/003"⟩) := by decide
  have removed :
      ((s1Boot.run (s1Unplugged.take 2)).1.step (.fire 0 (s1Host true))).1.findTimer 0 = none := by
    decide
  ⟨armed, removed, removed_timer_never_fires_again _ ((Reachable.boot _ _ _ _).run _) 0
    (s1Host true) _ armed removed _ (s1Host true)⟩

end Cml
