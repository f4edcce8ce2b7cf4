import SoTp.Utils.Fields
import SoTp.Utils.Paquete
import SoTp.Lib.Run
import SoTp.Lib.Rounds
import SoTp.Memoria.Particiones
import SoTp.Memoria.Asignacion
import SoTp.Memoria.Liberacion
import SoTp.Kernel.Memoria
import SoTp.Utils.Serializacion
import SoTp.Memoria.Mapa
import SoTp.Memoria.Contexto
import SoTp.Memoria.Peticiones
import SoTp.Cpu.Decode
import SoTp.Cpu.Execute
import SoTp.Cpu.Aislamiento
import SoTp.Cpu.Transparencia
import SoTp.Kernel.Syscall
import SoTp.Memoria.Instruccion
import SoTp.Memoria.Ausentes
import SoTp.Utils.Handshake
import SoTp.Kernel.Despacho
import SoTp.Cpu.Interrupcion
import SoTp.Memoria.Enlace
import SoTp.Kernel.Estado
import SoTp.Kernel.Ready
import SoTp.Kernel.Hilos
import SoTp.Memoria.Arranque
import SoTp.Kernel.Niveles
import SoTp.Memoria.Fijas
import SoTp.Memoria.Ajuste
import SoTp.Memoria.AjusteFijo
import SoTp.Memoria.Sumas
import SoTp.Memoria.TablaFija
import SoTp.Memoria.Tamanios
import SoTp.Memoria.Fusion
import SoTp.Cpu.Texto
import SoTp.Cpu.Semantica
import SoTp.Cpu.Saltos
import SoTp.Cpu.Gramatica
import SoTp.Cpu.Retorno
import SoTp.Kernel.Admision
import SoTp.Kernel.Busqueda
import SoTp.Kernel.Identidad
import SoTp.Kernel.Finalizacion
import SoTp.Kernel.Interprete
import SoTp.Kernel.Mutex
import SoTp.Kernel.Marcha
import SoTp.Kernel.Seleccion
import SoTp.Kernel.Procesos
import SoTp.Kernel.Planificacion
import SoTp.Kernel.Join
import SoTp.Kernel.Despertar
import SoTp.Kernel.Dependencias
import SoTp.Kernel.Cancel
import SoTp.Kernel.Tids
import SoTp.Kernel.Motivo
import SoTp.Kernel.Hallazgo
import SoTp.Kernel.Remocion
import SoTp.Kernel.Candados
import SoTp.Kernel.Pasada
import SoTp.Kernel.Reencolado
import SoTp.Memoria.Creacion
import SoTp.Memoria.Programa
import SoTp.Utils.Pcb
import SoTp.Utils.ListaEditada
import SoTp.Lib.Fifo
import SoTp.Kernel.Marcos
import SoTp.Kernel.Orden
import SoTp.Kernel.Exclusion
import SoTp.Kernel.Espera
import SoTp.Kernel.Pids
import SoTp.Kernel.LargoPlazo
import SoTp.Kernel.Prioridades
import SoTp.Lib.Simulation
import SoTp.Cpu.Ordenes
import SoTp.Cpu.Anotaciones
import SoTp.Cpu.Lineal
import SoTp.Cpu.Archivo
import SoTp.Lib.Allocator
import SoTp.Memoria.Reparto
import SoTp.Memoria.Esquemas
import SoTp.Memoria.Guardado
import SoTp.Memoria.Colgada
import SoTp.Utils.Composicion
