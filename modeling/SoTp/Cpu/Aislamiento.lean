import SoTp.Cpu.Execute

/-!
# The addresses that a process reaches

`READ_MEM` and `WRITE_MEM` translate the logical address with
`obtener_direccion_fisica(d, procesoEnEjecucion, threadEnEjecucion)`: the PID and
the TID stand where the base and the limit belong. The result is sent to memoria
whatever it is, also when it is the `(void *) -1` of an address out of bounds, and
the bound is compared with the first byte of the four.

* `accesoAislado_iff`: **exactly when an access stays inside the process.**
-/

namespace SoTp.Cpu

open SoTp.Lib SoTp.Utils

/-- The register that holds the logical address: the second of `READ_MEM`, the
first of `WRITE_MEM`. -/
def registroDireccion (inst : TInstruccion) : Option Registro :=
  match inst.instruccion with
  | .readMem => inst.registro2
  | .writeMem => inst.registro1
  | _ => none

/-- The bytes of a request that hold the address: the first eight of the payload. -/
def direccionEnviada (enviado : List UInt8) : List UInt8 := (enviado.drop 8).take 8

/-- The access to the logical address `d` asks memoria for `BASE + d`, with its four
bytes below the limit and no wrap-around, or sends nothing and reports a fault. -/
def AccesoAislado (registros : Registros) (d : UInt32) (e : Ejecucion) : Prop :=
  (direccionEnviada e.enviado = leBytes 8 (registros.BASE.toNat + d.toNat) ∧
      d.toNat + 4 ≤ registros.LIMITE.toNat ∧ registros.BASE.toNat + d.toNat < 2 ^ 32) ∨
    (e.enviado = [] ∧ e.interrupcionInterna = true)

/-! ## The request -/

theorem length_bytesPuntero (direccion : UInt64) : (bytesPuntero direccion).length = 8 :=
  length_leBytes 8 _

/-- A request with a pointer in front of its payload. -/
theorem direccionEnviada_enviarOperacion (g : Mem) {n : Int32} (hn : 8 ≤ n.toUInt32.toNat)
    (codigo : Int32) (direccion : UInt64) :
    direccionEnviada (enviarOperacion codigo
      (bufferWrite (bufferCreate g n) (bytesPuntero direccion))) = bytesPuntero direccion := by
  have hhead : (bytesInt codigo ++ bytesUint32 n.toUInt32).length = 8 := by
    rw [List.length_append, length_bytesInt, length_bytesUint32]
  have hself := Mem.read_write_self (bufferCreate g n).stream.mem 0 (bytesPuntero direccion)
  rw [length_bytesPuntero] at hself
  unfold direccionEnviada enviarOperacion enviarBuffer
  rw [← List.append_assoc, bufferWrite_size]
  show ((bytesInt codigo ++ bytesUint32 n.toUInt32 ++ _).drop 8).take 8 = _
  rw [List.drop_left' hhead]
  show (((bufferCreate g n).stream.mem.write 0 (bytesPuntero direccion)).read 0
    n.toUInt32.toNat).take 8 = _
  rw [Mem.take_read _ _ hn, hself]

/-- Every access sends a request with the translation of the address, made with
the PID and the TID. -/
theorem direccionEnviada_execute {g : Mem} {respuesta : UInt32} {inst : TInstruccion}
    {PID TID : UInt32} {registros : Registros} {bufferRetorno : TBuffer} {e : Ejecucion}
    {registro : Registro} (hregistro : registroDireccion inst = some registro)
    (he : executeInstruccion g respuesta inst PID TID registros bufferRetorno = some e) :
    direccionEnviada e.enviado =
      bytesPuntero (obtenerDireccionFisica (valor registros registro) PID TID) := by
  unfold registroDireccion at hregistro
  split at hregistro
  case h_1 hinst =>
    simp only [executeInstruccion, hinst, hregistro, Option.bind_eq_bind, Option.bind_some] at he
    obtain ⟨registro1, -, he⟩ := Option.bind_eq_some_iff.mp he
    obtain rfl := Option.some.inj he
    exact direccionEnviada_enviarOperacion g (by decide) _ _
  case h_2 hinst =>
    simp only [executeInstruccion, hinst, hregistro, Option.bind_eq_bind, Option.bind_some] at he
    obtain ⟨registro2, -, he⟩ := Option.bind_eq_some_iff.mp he
    split at he
    · obtain rfl := Option.some.inj he
      exact direccionEnviada_enviarOperacion g (by decide) _ _
    · obtain rfl := Option.some.inj he
      exact direccionEnviada_enviarOperacion g (by decide) _ _
  case h_3 => simp at hregistro

/-! ## The translation -/

theorem toNat_obtenerDireccionFisica (d PID TID : UInt32) :
    (obtenerDireccionFisica d PID TID).toNat =
      if TID.toNat < d.toNat then 2 ^ 64 - 1 else (d.toNat + PID.toNat) % 2 ^ 32 := by
  unfold obtenerDireccionFisica
  by_cases hlt : TID < d
  · rw [if_pos hlt, if_pos (UInt32.lt_iff_toNat_lt.mp hlt)]
    rfl
  · rw [if_neg hlt, if_neg (fun h => hlt (UInt32.lt_iff_toNat_lt.mpr h))]
    rw [UInt32.toNat_toUInt64, UInt32.toNat_add]

/-- **An access stays inside its process if and only if** the PID happens to be the
base, the TID is not below the address, and the access fits into the process. -/
theorem accesoAislado_iff (g : Mem) (respuesta : UInt32) (inst : TInstruccion) (PID TID : UInt32)
    (registros : Registros) (bufferRetorno : TBuffer) (e : Ejecucion) (registro : Registro)
    (hregistro : registroDireccion inst = some registro)
    (he : executeInstruccion g respuesta inst PID TID registros bufferRetorno = some e) :
    AccesoAislado registros (valor registros registro) e ↔
      PID = registros.BASE ∧ (valor registros registro).toNat ≤ TID.toNat ∧
        (valor registros registro).toNat + 4 ≤ registros.LIMITE.toNat ∧
        registros.BASE.toNat + (valor registros registro).toNat < 2 ^ 32 := by
  have henviada := direccionEnviada_execute hregistro he
  have hdir := toNat_obtenerDireccionFisica (valor registros registro) PID TID
  have hd := (valor registros registro).toNat_lt
  have hPID := PID.toNat_lt
  constructor
  · rintro (⟨hsent, hlimite, hwrap⟩ | ⟨hvacio, -⟩)
    · rw [henviada] at hsent
      have heq := leBytes_inj (UInt64.toNat_lt _) (by omega) hsent
      rw [hdir] at heq
      split at heq
      · -- the address of a fault is sent as it is
        omega
      · refine ⟨?_, by omega, hlimite, hwrap⟩
        rw [← UInt32.toNat_inj]
        omega
    · rw [hvacio] at henviada
      have hlen := congrArg List.length henviada
      rw [length_bytesPuntero] at hlen
      simp [direccionEnviada] at hlen
  · rintro ⟨rfl, hTID, hlimite, hwrap⟩
    refine Or.inl ⟨?_, hlimite, hwrap⟩
    rw [henviada]
    unfold bytesPuntero
    rw [hdir, if_neg (by omega)]
    congr 1
    omega

/-- `READ_MEM AX BX` with address 8 in a process of 64 bytes at 3, run as PID 3,
TID 9. -/
theorem accesoAislado_iff_readMem :
    ∃ e, executeInstruccion (fun _ => 0) 77
        { inicializarInstruccion with
          instruccion := .readMem
          registro1 := some .AX
          registro2 := some .BX } 3 9 ⟨0, 0, 8, 0, 0, 0, 0, 0, 0, 3, 64⟩
        (bufferCreate (fun _ => 0) 0) = some e ∧
      (AccesoAislado ⟨0, 0, 8, 0, 0, 0, 0, 0, 0, 3, 64⟩ 8 e ↔
        (3 : UInt32) = 3 ∧ (8 : UInt32).toNat ≤ (9 : UInt32).toNat ∧
          (8 : UInt32).toNat + 4 ≤ (64 : UInt32).toNat ∧
          (3 : UInt32).toNat + (8 : UInt32).toNat < 2 ^ 32) :=
  ⟨_, rfl, accesoAislado_iff (fun _ => 0) 77
    { inicializarInstruccion with
      instruccion := .readMem
      registro1 := some .AX
      registro2 := some .BX } 3 9 ⟨0, 0, 8, 0, 0, 0, 0, 0, 0, 3, 64⟩ (bufferCreate (fun _ => 0) 0) _
    .BX rfl rfl⟩

/-- The same read in the first thread (TID 0) of process 1, whose memory is
`[3, 67)`: memoria is asked for address `2^64 − 1`. -/
theorem not_accesoAislado_readMem :
    ∃ e, executeInstruccion (fun _ => 0) 77
        { inicializarInstruccion with
          instruccion := .readMem
          registro1 := some .AX
          registro2 := some .BX } 1 0 ⟨0, 0, 8, 0, 0, 0, 0, 0, 0, 3, 64⟩
        (bufferCreate (fun _ => 0) 0) = some e ∧
      direccionEnviada e.enviado = leBytes 8 (2 ^ 64 - 1) ∧
      ¬ AccesoAislado ⟨0, 0, 8, 0, 0, 0, 0, 0, 0, 3, 64⟩ 8 e := by
  refine ⟨_, rfl, by decide, ?_⟩
  rintro (⟨hsent, -, -⟩ | ⟨hvacio, -⟩)
  · exact absurd hsent (by decide)
  · exact absurd hvacio (by decide)

end SoTp.Cpu
