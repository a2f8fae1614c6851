import Motu424.BootTools.ColdBoot

open Program
open motu424.poke motu424.convert_golden

namespace motu424.replay

/-- The part of the driver in a register write. -/
def card_write (d : PokeDriver) (w : RegWrite) : List DriverEvent :=
  (base_of d w.bar).toList.map (.iowrite32 · w.offset w.value)

/-- A tool that has made the driver do these writes, and no other access. -/
structure Makes (before : Replayer) (writes : List RegWrite) (after : Replayer) : Prop where
  accesses : Accesses before (writes.flatMap (card_write before.driver)) after
  dma_phys : after.driver.dma_phys = before.driver.dma_phys

/-- Whatever the driver does, the tool makes these writes. -/
def Puts (writes : List RegWrite) {α : Type} (q : Replay α) : Prop := ∀ env r, Makes r writes (q.exec env r)

section rules

variable {α β ι : Type} {xs ys : List RegWrite} {q : Replay α} {g : α → Replay β}

theorem Makes.refl (r : Replayer) : Makes r [] r := ⟨.refl r, rfl⟩

theorem card_write_same {d d' : PokeDriver} (hsame : SameCard d d') : card_write d' = card_write d := by
  funext w
  rw [card_write, card_write, hsame.base_of_eq]

theorem Makes.trans {r r' r'' : Replayer} (hfirst : Makes r xs r') (hsecond : Makes r' ys r'') :
    Makes r (xs ++ ys) r'' where
  accesses := by
    have hrest := hsecond.accesses
    rw [card_write_same hfirst.accesses.1] at hrest
    rw [List.flatMap_append]
    exact hfirst.accesses.trans hrest
  dma_phys := hsecond.dma_phys.trans hfirst.dma_phys

theorem Puts.pure (a : α) : Puts [] (pure a : Replay α) := fun _ r => .refl r

theorem Puts.tell (event : ReplayEvent) : Puts [] (tell event) := fun _ _ => ⟨exec_tell event, rfl⟩

theorem Puts.write_reg (bar : Int) (offset value : U32) : Puts [⟨bar, offset, value⟩] (write_reg bar offset value) := by
  intro env r
  constructor
  · rw [List.flatMap_singleton]
    exact write_reg_accesses bar offset value
  · have hexec : ((replay.write_reg bar offset value).exec env r).driver =
        (poke_bar ⟨some ⟨offset, value, 1, bar⟩, true⟩ ⟨offset, value, 1, bar⟩ (base_of r.driver bar)).exec env
          r.driver := by
      rw [← exec_ioctl_poke_reg r.driver ⟨offset, value, 1, bar⟩, replay.write_reg, ioctl_data, request_of_poke]
      rfl
    rw [hexec]
    cases base_of r.driver bar with
    | none => rfl
    | some base => rfl

theorem Puts.bind_value {a : α} (hq : Puts xs q) (hvalue : ∀ env r, q.eval env r = a) (hg : Puts ys (g a)) :
    Puts (xs ++ ys) (q >>= g) := by
  intro env r
  rw [exec_bind, hvalue]
  exact (hq env r).trans (hg env _)

theorem Puts.bind (hq : Puts xs q) (hg : ∀ a, Puts ys (g a)) : Puts (xs ++ ys) (q >>= g) := by
  intro env r
  rw [exec_bind]
  exact (hq env r).trans (hg _ env _)

/-- A tool that starts with one write. -/
theorem Puts.write_then {bar : Int} {offset value : U32} {next : Unit → Replay β} (hnext : ∀ u, Puts ys (next u)) :
    Puts (⟨bar, offset, value⟩ :: ys) (replay.write_reg bar offset value >>= next) :=
  (Puts.write_reg bar offset value).bind hnext

/-- A tool that starts with a line of text or a pause. -/
theorem Puts.tell_then {event : ReplayEvent} {next : Unit → Replay β} (hnext : ∀ u, Puts ys (next u)) :
    Puts ys (replay.tell event >>= next) :=
  (Puts.tell event).bind hnext

theorem Puts.forEach {body : ι → Replay Unit} {writes : ι → List RegWrite} {is : List ι}
    (hbody : ∀ i ∈ is, Puts (writes i) (body i)) : Puts (is.flatMap writes) (Program.forEach is body) := by
  induction is with
  | nil => exact Puts.pure ()
  | cons i is ih =>
    exact (hbody i List.mem_cons_self).bind fun _ => ih fun j hj => hbody j (List.mem_cons_of_mem _ hj)

end rules

theorem zero_dsp_ram_puts : Puts zero_writes zero_dsp_ram := by
  rw [zero_writes, List.map_eq_flatMap]
  exact Puts.forEach fun i _ => Puts.write_reg _ _ _

theorem golden_calls_puts (calls : List (Nat × Nat)) : Puts (calls.map golden_write) (golden_calls calls) := by
  rw [List.map_eq_flatMap]
  exact Puts.forEach fun call _ => Puts.write_reg _ _ _

theorem kickstart_puts : Puts kickstart_writes kickstart :=
  Puts.write_then fun _ => Puts.write_then fun _ => Puts.write_reg _ _ _

/-- The shape of both uploads around their own loop. -/
theorem upload_puts {mid : List RegWrite} {loop : Replay Unit} (hloop : Puts mid loop) (first last : ReplayEvent) :
    Puts (upload_writes mid) (do
      tell first
      write_reg 2 0x4 0x1
      write_reg 1 0x300000 0xE0
      write_reg 1 0x300004 0xE0
      write_reg 1 0x300008 0x00
      loop
      write_reg 1 0x300004 0xC0
      write_reg 2 0x8 0x0
      tell last) := by
  have hend : Puts finalisation_writes (do write_reg 1 0x300004 0xC0; write_reg 2 0x8 0x0; tell last) :=
    Puts.write_then fun _ => Puts.write_then fun _ => Puts.tell last
  have hbody : Puts (mid ++ finalisation_writes)
      (do loop; write_reg 1 0x300004 0xC0; write_reg 2 0x8 0x0; tell last) := hloop.bind fun _ => hend
  rw [upload_writes, List.append_assoc]
  refine Puts.tell_then fun _ => ?_
  exact Puts.write_then fun _ => Puts.write_then fun _ => Puts.write_then fun _ => Puts.write_then fun _ => hbody

namespace poke_fpga

theorem upload_bits_puts (byte : U8) {bits : List Nat} (hbits : ∀ bit ∈ bits, bit < 8) (prev : Bool) :
    (∀ env r, (upload_bits byte bits (fpga_value prev)).eval env r =
      fpga_value ((bits.map byte.getLsbD).getLastD prev)) ∧
    Puts (held_writes prev (bits.map byte.getLsbD)) (upload_bits byte bits (fpga_value prev)) := by
  induction bits generalizing prev with
  | nil => exact ⟨fun _ _ => rfl, Puts.pure _⟩
  | cons bit bits ih =>
    obtain ⟨hvalue, hputs⟩ := ih (fun b hb => hbits b (List.mem_cons_of_mem _ hb)) (byte.getLsbD bit)
    have hbit := bit_value byte (hbits bit List.mem_cons_self)
    rw [upload_bits, hbit, List.map_cons, List.getLastD_cons]
    exact ⟨fun env r => hvalue env _, Puts.write_then fun _ => Puts.write_then fun _ => Puts.write_then fun _ => hputs⟩

theorem upload_bytes_puts (bytes : List U8) (prev : Bool) :
    Puts (held_writes prev (image_bits bytes)) (upload_bytes bytes (fpga_value prev)) := by
  induction bytes generalizing prev with
  | nil => exact Puts.pure ()
  | cons byte bytes ih =>
    obtain ⟨hvalue, hputs⟩ := upload_bits_puts byte (fun _ hbit => List.mem_range.mp hbit) prev
    have happend := held_writes_append prev (byte_bits byte) (image_bits bytes)
    rw [upload_bytes, image_bits, List.flatMap_cons, ← image_bits, happend]
    exact hputs.bind_value hvalue (ih _)

theorem upload_puts (image : List U8) : Puts (upload_writes (held_writes false (image_bits image))) (upload image) :=
  replay.upload_puts (upload_bytes_puts image false) _ _

theorem load_dsp_puts (golden_dsp golden_dsp_patch : List (Nat × Nat)) :
    Puts (zero_writes ++ (golden_dsp ++ golden_dsp_patch).map golden_write) (load_dsp golden_dsp golden_dsp_patch) := by
  rw [List.map_append]
  refine Puts.tell_then fun _ => zero_dsp_ram_puts.bind fun _ => Puts.tell_then fun _ => Puts.tell_then fun _ => ?_
  refine (golden_calls_puts golden_dsp).bind fun _ => Puts.tell_then fun _ => ?_
  have hpatch := (golden_calls_puts golden_dsp_patch).bind fun _ => Puts.tell (.printf "   DSP upload complete.\n" [])
  rwa [List.append_nil] at hpatch

/-- The driver has another number for the request, and refuses it. -/
theorem get_dma_refused (env : DriverEnv) (r : Replayer) :
    (ioctl_addr GET_DMA).eval env r = (-ENOTTY, 0) ∧ (ioctl_addr GET_DMA).exec env r = r := by
  have hrequest : request_of GET_DMA = .other GET_DMA := by decide
  constructor
  · rw [ioctl_addr, hrequest, eval_bind, eval_bind, eval_bind, eval_gets, exec_gets, eval_gets, eval_pure]
    change (-ENOTTY, ((r.driver.history.drop r.driver.history.length).filterMap smart.copied_addr).getLast?.getD 0) = _
    rw [List.drop_length]
    rfl
  · rw [ioctl_addr, hrequest]
    rfl

/-- So the tool ends with an error once the DSP is loaded. -/
theorem run_refused (env : DriverEnv) (r : Replayer) (image : List U8)
    (golden_dsp golden_dsp_patch : List (Nat × Nat)) :
    (run image golden_dsp golden_dsp_patch).eval env r = 1 ∧
    Makes r (upload_writes (held_writes false (image_bits image)) ++
        (zero_writes ++ (golden_dsp ++ golden_dsp_patch).map golden_write))
      ((run image golden_dsp golden_dsp_patch).exec env r) := by
  have hload := (upload_puts image env r).trans
    (load_dsp_puts golden_dsp golden_dsp_patch env ((upload image).exec env r))
  generalize hr' : (load_dsp golden_dsp golden_dsp_patch).exec env ((upload image).exec env r) = r' at hload
  obtain ⟨hvalue, hstate⟩ := get_dma_refused env r'
  have hrefused : -ENOTTY < 0 := by decide
  rw [run, eval_bind, eval_bind, eval_bind, exec_bind, exec_bind, exec_bind, hr', hvalue, hstate]
  dsimp only
  rw [if_pos hrefused]
  have htell := hload.trans (Puts.tell (.perror "GET_DMA") env r')
  rw [List.append_nil] at htell
  exact ⟨rfl, htell⟩

end poke_fpga

namespace safe_sync

theorem upload_bit_puts (byte : U8) {bit : Nat} (hbit : bit < 8) :
    Puts (clocked (byte.getLsbD bit) (byte.getLsbD bit)) (upload_bit byte bit) := by
  rw [upload_bit, bit_value byte hbit]
  exact Puts.write_then fun _ => Puts.write_then fun _ => Puts.write_reg _ _ _

theorem upload_puts (image : List U8) : Puts (upload_writes (strobe_writes (image_bits image))) (upload image) := by
  have hbyte (byte : U8) : Puts (strobe_writes (byte_bits byte)) (forEach (List.range 8) (upload_bit byte)) := by
    rw [strobe_writes, byte_bits, List.flatMap_map]
    exact Puts.forEach fun bit hbit => upload_bit_puts byte (List.mem_range.mp hbit)
  refine replay.upload_puts ?_ _ _
  rw [strobe_writes, image_bits, List.flatMap_assoc]
  exact Puts.forEach fun byte _ => hbyte byte

theorem load_dsp_puts (golden_dsp golden_dsp_patch : List (Nat × Nat)) :
    Puts (zero_writes ++ (golden_dsp ++ golden_dsp_patch).map golden_write) (load_dsp golden_dsp golden_dsp_patch) := by
  rw [List.map_append]
  refine Puts.tell_then fun _ => zero_dsp_ram_puts.bind fun _ => ?_
  exact (golden_calls_puts golden_dsp).bind fun _ => golden_calls_puts golden_dsp_patch

/-- The driver grants the request with the low half of its address. -/
theorem get_dma_granted (env : DriverEnv) (r : Replayer) :
    (ioctl_addr MOTU_IOC_GET_DMA).eval env r = (0, r.driver.dma_phys.truncate 32) ∧
    Accesses r [] ((ioctl_addr MOTU_IOC_GET_DMA).exec env r) := by
  have hrequest : request_of MOTU_IOC_GET_DMA = .ioc_get_dma := by decide
  constructor
  · rw [ioctl_addr, hrequest, eval_bind, eval_bind, eval_bind, eval_gets, exec_gets, eval_gets, eval_pure]
    change (0, (((r.driver.history ++ [DriverEvent.copy_addr_to_user (r.driver.dma_phys.truncate 32)]).drop
      r.driver.history.length).filterMap smart.copied_addr).getLast?.getD 0) = _
    rw [List.drop_left]
    rfl
  · rw [ioctl_addr, hrequest]
    refine ⟨⟨rfl, rfl, rfl⟩, ?_⟩
    exact register_accesses_append r.driver.history [.copy_addr_to_user (r.driver.dma_phys.truncate 32)]

/-- The writes of a statement. -/
def Statement.writes (dma_addr : U32) : Statement → List RegWrite
  | .write_reg bar offset value => [⟨bar, offset, value dma_addr⟩]
  | .usleep _ => []

theorem configure_puts (dma_addr : U32) (golden_sequence : List Statement) :
    Puts (golden_sequence.flatMap (Statement.writes dma_addr)) (configure dma_addr golden_sequence) := by
  have hstatement (statement : Statement) : Puts (statement.writes dma_addr) (statement.perform dma_addr) := by
    cases statement with
    | write_reg bar offset value => exact Puts.write_reg _ _ _
    | usleep usec => exact Puts.tell _
  have hsequence := Puts.forEach fun statement (_ : statement ∈ golden_sequence) => hstatement statement
  have htext : Puts [] (do
      tell (.printf "\nDONE! Card should now be live. Watch the lights.\n" [])
      tell (.printf "Starting background IRQ ACK loop to keep DSP active...\n" [])) :=
    Puts.tell_then fun _ => Puts.tell _
  have hboth := hsequence.bind fun _ => htext
  rw [List.append_nil] at hboth
  exact Puts.tell_then fun _ => hboth

/-- The register that the tool writes in every round of its last loop. -/
def ack_write : RegWrite := ⟨1, 0x400000, 0x10⟩

theorem ack_rounds_put (rounds : Nat) :
    Puts (List.replicate rounds ack_write) (forEach (List.range rounds) fun _ => ack_round) := by
  have hround : Puts [ack_write] ack_round := (Puts.write_reg _ _ _).bind fun _ => Puts.tell _
  have hrounds := Puts.forEach fun i (_ : i ∈ List.range rounds) => hround
  rwa [← List.map_eq_flatMap, List.map_const', List.length_range] at hrounds

/-- The tool checks the boot vector after the kick-start. -/
theorem boot_accesses (env : DriverEnv) (r : Replayer) (dma_addr : U32) :
    Accesses r (kickstart_writes.flatMap (card_write r.driver) ++ (base_of r.driver 0).toList.map (.ioread32 · 0x3fffc))
      ((boot dma_addr).exec env r) := by
  have hkick := (Puts.tell (.printf "3. Kickstarting DSP with Linux DMA at 0x%X\n" [.u32 dma_addr]) env r).trans
    ((kickstart_puts env _).trans (Puts.tell (.usleep 500000) env _))
  rw [List.append_nil, List.nil_append] at hkick
  have hboot := hkick.accesses
  generalize hr' : (tell (.usleep 500000)).exec env (kickstart.exec env
    ((tell (.printf "3. Kickstarting DSP with Linux DMA at 0x%X\n" [.u32 dma_addr])).exec env r)) = r' at hboot
  have hread := @read_reg_accesses env r' 0 0x3fffc
  rw [hboot.1.base_of_eq] at hread
  have htext := hread.trans (@exec_tell env _
    (.printf "   Boot Vector Check: 0x%X\n" [.u32 ((read_reg 0 0x3fffc).eval env r')]))
  rw [List.append_nil] at htext
  have hexec : (boot dma_addr).exec env r = (tell (.printf "   Boot Vector Check: 0x%X\n"
      [.u32 ((read_reg 0 0x3fffc).eval env r')])).exec env ((read_reg 0 0x3fffc).exec env r') := by
    rw [← hr']
    rfl
  rw [hexec]
  exact hboot.trans htext

/-- The accesses of the whole tool, up to a round of its last loop. -/
theorem run_accesses (env : DriverEnv) (r : Replayer) (image : List U8)
    (golden_dsp golden_dsp_patch : List (Nat × Nat)) (golden_sequence : List Statement) (rounds : Nat) :
    Accesses r ((upload_writes (strobe_writes (image_bits image)) ++
          (zero_writes ++ (golden_dsp ++ golden_dsp_patch).map golden_write)).flatMap (card_write r.driver) ++
        (kickstart_writes.flatMap (card_write r.driver) ++ (base_of r.driver 0).toList.map (.ioread32 · 0x3fffc) ++
          (golden_sequence.flatMap (Statement.writes (r.driver.dma_phys.truncate 32)) ++
            List.replicate rounds ack_write).flatMap (card_write r.driver)))
      ((run image golden_dsp golden_dsp_patch golden_sequence rounds).exec env r) := by
  have hload := (upload_puts image env r).trans
    (load_dsp_puts golden_dsp golden_dsp_patch env ((upload image).exec env r))
  generalize hr₁ : (load_dsp golden_dsp golden_dsp_patch).exec env ((upload image).exec env r) = r₁ at hload
  obtain ⟨hvalue, hgranted⟩ := get_dma_granted env r₁
  rw [hload.dma_phys] at hvalue
  generalize hr₂ : (ioctl_addr MOTU_IOC_GET_DMA).exec env r₁ = r₂ at hgranted
  have hboot := boot_accesses env r₂ (r.driver.dma_phys.truncate 32)
  generalize hr₃ : (boot (r.driver.dma_phys.truncate 32)).exec env r₂ = r₃ at hboot
  have hrest := (configure_puts (r.driver.dma_phys.truncate 32) golden_sequence env r₃).trans
    (ack_rounds_put rounds env _)
  have hcard := hload.accesses.trans hgranted
  rw [List.append_nil] at hcard
  rw [hcard.1.base_of_eq, card_write_same hcard.1] at hboot
  have hbooted := hcard.trans hboot
  have hlast := hrest.accesses
  rw [card_write_same hbooted.1] at hlast
  have hall := hbooted.trans hlast
  rw [List.append_assoc] at hall
  rw [run, exec_bind, exec_bind, exec_bind, hr₁, hvalue, hr₂, exec_bind, hr₃, exec_bind]
  exact hall

end safe_sync

/-- The converter takes both files of the program. -/
theorem convert_program {golden_dsp golden_dsp_patch : List (Nat × Nat)} {blob : List U8}
    (hblob : write_blob ((golden_dsp ++ golden_dsp_patch).map generate_dsp.entry) = .ok blob) :
    convert [.text (generate_dsp.golden_text golden_dsp), .text (generate_dsp.golden_text golden_dsp_patch)] =
      .ok blob := by
  have hfiles := generate_dsp.convert_calls [golden_dsp, golden_dsp_patch]
  rw [List.flatten_cons, List.flatten_singleton] at hfiles
  rw [convert, bind_eq_ok_iff]
  refine ⟨_, hfiles, ?_⟩
  rw [write_entries, hblob]
  rfl

/-- With a firmware image and a program, whose files the converter turns into the init sequence of the driver,
motu_safe_sync brings the card up as the driver does: the FPGA receives the same bits, and the same words are zeroed,
loaded and written to start the DSP, in the same order, but the driver translates the words of the program for its
buffer. The tool goes on with its golden sequence, with the address of the buffer of the poke driver in it. -/
theorem safe_sync.boots_as_driver (denv : DriverEnv) (r : Replayer) (env : Env) (m : Machine) {image : List U8}
    (himage : image ≠ []) {golden_dsp golden_dsp_patch : List (Nat × Nat)} (hne : golden_dsp ++ golden_dsp_patch ≠ [])
    (hwords : ∀ call ∈ golden_dsp ++ golden_dsp_patch, call.1 < 2 ^ 32 ∧ call.2 < 2 ^ 32)
    (golden_sequence : List safe_sync.Statement) (rounds : Nat) :
    ∃ blob uploaded uploaded' rest,
      convert [.text (generate_dsp.golden_text golden_dsp), .text (generate_dsp.golden_text golden_dsp_patch)] =
        .ok blob ∧
      received (upload_writes uploaded) = image_bits image ∧ received (upload_writes uploaded') = image_bits image ∧
      reg_writes (((motu424_full_init (some image) (some blob)).exec env m).since m) = upload_writes uploaded ++
        zero_writes ++ (golden_dsp ++ golden_dsp_patch).map (relocated m.ctx) ++ kickstart_writes ++ rest ∧
      register_accesses ((safe_sync.main true (some image) golden_dsp golden_dsp_patch golden_sequence rounds).exec denv
          r).driver.history = register_accesses r.driver.history ++
        (upload_writes uploaded' ++ zero_writes ++ (golden_dsp ++ golden_dsp_patch).map golden_write ++
          kickstart_writes).flatMap (card_write r.driver) ++
        (base_of r.driver 0).toList.map (.ioread32 · 0x3fffc) ++
        (golden_sequence.flatMap (safe_sync.Statement.writes (r.driver.dma_phys.truncate 32)) ++
          List.replicate rounds safe_sync.ack_write).flatMap (card_write r.driver) := by
  obtain ⟨blob, rest, hblob, hdriver⟩ := full_init_cold_boot env m himage hne hwords
  obtain ⟨hheld, hstrobes⟩ := received_bits (image_bits image)
  have htool := (safe_sync.run_accesses denv r image golden_dsp golden_dsp_patch golden_sequence rounds).2
  refine ⟨blob, _, _, rest, convert_program hblob, hheld, hstrobes, hdriver, ?_⟩
  have hmain : (safe_sync.main true (some image) golden_dsp golden_dsp_patch golden_sequence rounds).exec denv r =
      (safe_sync.run image golden_dsp golden_dsp_patch golden_sequence rounds).exec denv r := by
    rw [safe_sync.main, if_neg (by decide : ¬ true = false), exec_bind, exec_pure]
  rw [hmain, htool]
  simp only [List.flatMap_append, List.append_assoc]

/-- The poke driver gets a buffer, and its card has all BARs. -/
def loaded_env : DriverEnv := .idle (some (0x10000, 0x1000000))

/-- A tool over the loaded poke driver. -/
def loaded_tool : Replayer := ⟨loaded (some (0x10000, 0x1000000)), []⟩

def short_image : List U8 := [0xA5, 0x3C]

/-- The calls of a short program and of its patch. -/
def short_program : List (Nat × Nat) := [(0x0, 0x7ec582a)]
def short_patch : List (Nat × Nat) := [(0xb44, 0x1)]

/-- A short boot, with three rounds of the last loop. -/
theorem short_boot :
    ∃ blob uploaded uploaded' rest,
      convert [.text (generate_dsp.golden_text short_program), .text (generate_dsp.golden_text short_patch)] =
        .ok blob ∧
      received (upload_writes uploaded) = image_bits short_image ∧
      received (upload_writes uploaded') = image_bits short_image ∧
      reg_writes (((motu424_full_init (some short_image) (some blob)).exec .idle ⟨mapped_ctx, []⟩).since
        ⟨mapped_ctx, []⟩) =
        upload_writes uploaded ++ zero_writes ++ (short_program ++ short_patch).map (relocated mapped_ctx) ++
          kickstart_writes ++ rest ∧
      register_accesses ((safe_sync.main true (some short_image) short_program short_patch
          [.write_reg 0 0x259c (· ||| 0x9b0)] 3).exec loaded_env loaded_tool).driver.history =
        register_accesses loaded_tool.driver.history ++
        (upload_writes uploaded' ++ zero_writes ++ (short_program ++ short_patch).map golden_write ++
          kickstart_writes).flatMap (card_write loaded_tool.driver) ++
        (base_of loaded_tool.driver 0).toList.map (.ioread32 · 0x3fffc) ++
        ([(⟨0, 0x259c, 0x10009b0⟩ : RegWrite)] ++ List.replicate 3 safe_sync.ack_write).flatMap
          (card_write loaded_tool.driver) :=
  @safe_sync.boots_as_driver loaded_env loaded_tool .idle ⟨mapped_ctx, []⟩ short_image (by decide) short_program
    short_patch (by decide) (by decide) [.write_reg 0 0x259c (· ||| 0x9b0)] 3

/-- With the same image and program, poke_fpga makes the writes of the driver's cold boot one for one, up to the
translated words, but ends with an error just before the writes that start the DSP: the number of its request for the
buffer is unknown to the poke driver. -/
theorem poke_fpga.stops_before_boot (denv : DriverEnv) (r : Replayer) (env : Env) (m : Machine) (argv0 : String)
    {image : List U8} (himage : image ≠ []) {golden_dsp golden_dsp_patch : List (Nat × Nat)}
    (hne : golden_dsp ++ golden_dsp_patch ≠ [])
    (hwords : ∀ call ∈ golden_dsp ++ golden_dsp_patch, call.1 < 2 ^ 32 ∧ call.2 < 2 ^ 32) :
    (poke_fpga.main true argv0 (.file image) golden_dsp golden_dsp_patch).eval denv r = 1 ∧
    ∃ blob uploaded rest,
      convert [.text (generate_dsp.golden_text golden_dsp), .text (generate_dsp.golden_text golden_dsp_patch)] =
        .ok blob ∧
      received (upload_writes uploaded) = image_bits image ∧
      reg_writes (((motu424_full_init (some image) (some blob)).exec env m).since m) = upload_writes uploaded ++
        zero_writes ++ (golden_dsp ++ golden_dsp_patch).map (relocated m.ctx) ++ kickstart_writes ++ rest ∧
      register_accesses ((poke_fpga.main true argv0 (.file image) golden_dsp golden_dsp_patch).exec denv
          r).driver.history = register_accesses r.driver.history ++
        (upload_writes uploaded ++ zero_writes ++ (golden_dsp ++ golden_dsp_patch).map golden_write).flatMap
          (card_write r.driver) := by
  obtain ⟨blob, rest, hblob, hdriver⟩ := full_init_cold_boot env m himage hne hwords
  obtain ⟨hvalue, htool⟩ := poke_fpga.run_refused denv r image golden_dsp golden_dsp_patch
  have hmain : poke_fpga.main true argv0 (.file image) golden_dsp golden_dsp_patch =
      poke_fpga.run image golden_dsp golden_dsp_patch := by
    rw [poke_fpga.main, if_neg (by decide : ¬ true = false)]
  rw [hmain]
  refine ⟨hvalue, blob, _, rest, convert_program hblob, (received_bits (image_bits image)).1, hdriver, ?_⟩
  rw [htool.accesses.2, List.append_assoc]

/-- The short image and program again. -/
theorem short_load :
    (poke_fpga.main true "poke_fpga" (.file short_image) short_program short_patch).eval loaded_env
      loaded_tool = 1 ∧
    ∃ blob uploaded rest,
      convert [.text (generate_dsp.golden_text short_program), .text (generate_dsp.golden_text short_patch)] =
        .ok blob ∧
      received (upload_writes uploaded) = image_bits short_image ∧
      reg_writes (((motu424_full_init (some short_image) (some blob)).exec .idle ⟨mapped_ctx, []⟩).since
        ⟨mapped_ctx, []⟩) =
        upload_writes uploaded ++ zero_writes ++ (short_program ++ short_patch).map (relocated mapped_ctx) ++
          kickstart_writes ++ rest ∧
      register_accesses ((poke_fpga.main true "poke_fpga" (.file short_image) short_program
          short_patch).exec loaded_env loaded_tool).driver.history =
        register_accesses loaded_tool.driver.history ++
        (upload_writes uploaded ++ zero_writes ++ (short_program ++ short_patch).map golden_write).flatMap
          (card_write loaded_tool.driver) :=
  @poke_fpga.stops_before_boot loaded_env loaded_tool .idle ⟨mapped_ctx, []⟩ "poke_fpga" short_image (by decide)
    short_program short_patch (by decide) (by decide)

end motu424.replay
