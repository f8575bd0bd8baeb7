import UdpipBroadcaster.Startup

/-!
# The device a socket is bound to

The name of the interface is copied twice, into buffers of different sizes.
A name that leaves no room for a NUL in the second one gets past the test of
its length.
-/

namespace UdpipBroadcaster

open ByteStrings Programs

/-! ## The field `ifr_name` -/

/-- The field is terminated and holds the whole argument. -/
def Ifreq.Names (ifr : Ifreq) (optarg : CString) : Prop :=
  0 ∈ ifr.ifrName.bytes ∧ ifr.ifrName.text = optarg

/-- A name that fits is padded to the size of the field. -/
theorem bytes_deviceName
    {ifName : CString} (fits : strlen ifName ≤ ifNamesize) :
    (deviceName ifName).ifrName.bytes =
      ifName.bytes ++ List.replicate (ifNamesize - strlen ifName) 0 := by
  have copied :
      ifName.bytes.take (strlen ifName) ++
          List.replicate (strlen ifName - strlen ifName) 0 =
        ifName.bytes := by
    simp [strlen]
  have short :
      ifName.bytes.length ≤ (CharArray.zero ifNamesize).bytes.length := by
    rw [(CharArray.zero ifNamesize).length_bytes]
    exact fits
  simp only [deviceName, strncpy]
  rw [copied, overwrite_eq_append short]
  simp [CharArray.zero, strlen]

/-- The field names the interface exactly if a NUL fits behind its whole
name. -/
theorem deviceName_names_iff
    {ifName optarg : CString}
    (cut : ifName.bytes = optarg.bytes.take ifNamesize) :
    (deviceName ifName).Names optarg ↔ strlen optarg < ifNamesize := by
  have length : strlen ifName = min ifNamesize (strlen optarg) := by
    rw [strlen, cut, List.length_take, strlen]
  have fits : strlen ifName ≤ ifNamesize := by omega
  have bytes := bytes_deviceName fits
  have text := CharArray.text_padded bytes ifName.noNul
  constructor
  · intro names
    by_contra long
    have full : ifNamesize - strlen ifName = 0 := by omega
    have nul := names.1
    rw [bytes, full, List.replicate_zero, List.append_nil] at nul
    exact ifName.noNul nul
  · intro short
    have whole : ifName.bytes = optarg.bytes := by
      rw [cut]
      exact List.take_of_length_le (Nat.le_of_lt short)
    constructor
    · rw [bytes]
      apply List.mem_append_right
      rw [List.mem_replicate]
      exact ⟨by omega, rfl⟩
    · rw [CString.mk.injEq, text, whole]

/-! ## What `set_bindtodevice_socket` passes on -/

variable {platform : Platform} {opts : List Opt} {settings : Settings}
  {world next : World}

theorem initIfreq_returned
    {ifName : CString} {ifr : Ifreq}
    (returned : initIfreq platform ifName world = .ok ifr next) :
    ifr = deviceName ifName := by
  have run :
      wp (fun _ => True) (initIfreq platform ifName)
        (fun ifr _ => ifr = deviceName ifName) world := by
    simp only [initIfreq, newIfreq, mallocStructure, callFails,
      handleSysError, handleAppError, wp_bind, wp_ite, wp_get, wp_set,
      wp_throw, wp_pure]
    exact ⟨fun _ => trivial, fun _ => ⟨fun _ => trivial, fun _ => rfl⟩⟩
  have built := post_of_returned run returned
  exact built

/-- The call of `setsockopt` in `set_bindtodevice_socket`, with the check of
its result. -/
def bindToDevice (platform : Platform) (socketFd : Int) (ifr : Ifreq) :
    Program Int := do
  let result ← setsockopt platform socketFd fun socket =>
    { socket with device := some ifr }
  if result < 0 then
    handleSysError
  pure exOk

/-- Once `init_ifreq` has returned, its result is what `SO_BINDTODEVICE` is
given, and it names the interface exactly if the argument of the last `-i`
is shorter than the field. -/
theorem bindsNamed_iff
    {optarg : CString} {ifr : Ifreq}
    (accepted : createConfiguration opts = .ok settings)
    (given : lastArgument .ifname opts = some optarg)
    (returned :
      initIfreq platform settings.cfg.ifName.text world = .ok ifr next) :
    (∀ fd, setBindtodeviceSocket platform settings.cfg.ifName.text fd
        world = bindToDevice platform fd ifr next) ∧
      (ifr.Names optarg ↔ strlen optarg < ifNamesize) := by
  have cut := text_ifName accepted
  rw [given] at cut
  constructor
  · intro fd
    exact bind_ok _ returned
  · rw [initIfreq_returned returned]
    exact deviceName_names_iff cut

theorem bindsNamed_relayOptions :
    ∃ ifr next,
      initIfreq workingHost relaySettings.cfg.ifName.text
          (World.initial .silent) = .ok ifr next ∧
        (∀ fd, setBindtodeviceSocket workingHost
            relaySettings.cfg.ifName.text fd (World.initial .silent) =
          bindToDevice workingHost fd ifr next) ∧
        (ifr.Names interfaceText ↔ strlen interfaceText < ifNamesize) :=
  ⟨_, _, rfl, bindsNamed_iff createConfiguration_relayOptions rfl rfl⟩

/-- `abcdefghijklmnop` -/
def sixteenText : CString :=
  ⟨[97, 98, 99, 100, 101, 102, 103, 104, 105, 106, 107, 108, 109, 110, 111,
    112], by decide⟩

/-- `-s -i abcdefghijklmnop -t 5000 -r 5000 -u 6000 -w 6001` -/
def sixteenOptions : List Opt :=
  .txtest :: .ifname sixteenText :: relayOptions.tail

def sixteenSettings : Settings :=
  { relaySettings with
    cfg.ifName := ⟨sixteenText.bytes ++ [0], rfl⟩
    cfg.txTest := true }

/-- A host with a device `abcdefghijklmno`. -/
def fifteenHost : Platform :=
  { workingHost with
    ifaddrs :=
      [⟨⟨sixteenText.bytes.take 15, by decide⟩,
        some ⟨afInet, 0, quadAddress 192 168 1 5⟩⟩] }

/-- A name of sixteen bytes is accepted, and `main` binds its socket to a
device with a field that has no NUL. -/
theorem not_bindsNamed_sixteenOptions :
    createConfiguration sixteenOptions = .ok sixteenSettings ∧
      lastArgument .ifname sixteenOptions = some sixteenText ∧
      ∃ ifr,
        (finalState
            (main fifteenHost sixteenOptions
              (World.initial .silent))).sockets =
          [⟨none, true, some ifr, false⟩] ∧
        ¬ ifr.Names sixteenText := by
  refine ⟨rfl, rfl, ⟨⟨sixteenText.bytes, rfl⟩⟩, ?_, fun names => ?_⟩
  · decide +kernel
  · exact absurd names.1 (by decide)

end UdpipBroadcaster
