/-!
# Opcodes

The operations a decoded method body can contain, with the byte and the mnemonic that the class file
format gives each of them. Short forms that exist only in the binary encoding have no opcode here: a
decoder folds them into the general form.
-/

namespace ConstProp

/-- A JVM operation in its general form. -/
inductive Opcode where
  | nop | aconstNull | iconstM1 | iconst0 | iconst1 | iconst2 | iconst3 | iconst4 | iconst5
  | lconst0 | lconst1 | fconst0 | fconst1 | fconst2 | dconst0 | dconst1 | bipush | sipush | ldc
  | iload | lload | fload | dload | aload | iaload | laload | faload | daload | aaload | baload
  | caload | saload | istore | lstore | fstore | dstore | astore | iastore | lastore | fastore
  | dastore | aastore | bastore | castore | sastore | pop | pop2 | dup | dupX1 | dupX2 | dup2
  | dup2X1 | dup2X2 | swap | iadd | ladd | fadd | dadd | isub | lsub | fsub | dsub | imul | lmul
  | fmul | dmul | idiv | ldiv | fdiv | ddiv | irem | lrem | frem | drem | ineg | lneg | fneg | dneg
  | ishl | lshl | ishr | lshr | iushr | lushr | iand | land | ior | lor | ixor | lxor | iinc | i2l
  | i2f | i2d | l2i | l2f | l2d | f2i | f2l | f2d | d2i | d2l | d2f | i2b | i2c | i2s | lcmp
  | fcmpl | fcmpg | dcmpl | dcmpg | ifeq | ifne | iflt | ifge | ifgt | ifle | ifIcmpeq | ifIcmpne
  | ifIcmplt | ifIcmpge | ifIcmpgt | ifIcmple | ifAcmpeq | ifAcmpne | goto | jsr | ret
  | tableswitch | lookupswitch | ireturn | lreturn | freturn | dreturn | areturn | returnVoid
  | getstatic | putstatic | getfield | putfield | invokevirtual | invokespecial | invokestatic
  | invokeinterface | invokedynamic | new | newarray | anewarray | arraylength | athrow | checkcast
  | instanceof | monitorenter | monitorexit | multianewarray | ifnull | ifnonnull
  deriving DecidableEq, Repr, Inhabited

namespace Opcode

/-- Every opcode once, in the order of the opcode bytes. -/
def all : List Opcode :=
  [.nop, .aconstNull, .iconstM1, .iconst0, .iconst1, .iconst2, .iconst3, .iconst4, .iconst5,
   .lconst0, .lconst1, .fconst0, .fconst1, .fconst2, .dconst0, .dconst1, .bipush, .sipush, .ldc,
   .iload, .lload, .fload, .dload, .aload, .iaload, .laload, .faload, .daload, .aaload, .baload,
   .caload, .saload, .istore, .lstore, .fstore, .dstore, .astore, .iastore, .lastore, .fastore,
   .dastore, .aastore, .bastore, .castore, .sastore, .pop, .pop2, .dup, .dupX1, .dupX2, .dup2,
   .dup2X1, .dup2X2, .swap, .iadd, .ladd, .fadd, .dadd, .isub, .lsub, .fsub, .dsub, .imul, .lmul,
   .fmul, .dmul, .idiv, .ldiv, .fdiv, .ddiv, .irem, .lrem, .frem, .drem, .ineg, .lneg, .fneg, .dneg,
   .ishl, .lshl, .ishr, .lshr, .iushr, .lushr, .iand, .land, .ior, .lor, .ixor, .lxor, .iinc, .i2l,
   .i2f, .i2d, .l2i, .l2f, .l2d, .f2i, .f2l, .f2d, .d2i, .d2l, .d2f, .i2b, .i2c, .i2s, .lcmp,
   .fcmpl, .fcmpg, .dcmpl, .dcmpg, .ifeq, .ifne, .iflt, .ifge, .ifgt, .ifle, .ifIcmpeq, .ifIcmpne,
   .ifIcmplt, .ifIcmpge, .ifIcmpgt, .ifIcmple, .ifAcmpeq, .ifAcmpne, .goto, .jsr, .ret,
   .tableswitch, .lookupswitch, .ireturn, .lreturn, .freturn, .dreturn, .areturn, .returnVoid,
   .getstatic, .putstatic, .getfield, .putfield, .invokevirtual, .invokespecial, .invokestatic,
   .invokeinterface, .invokedynamic, .new, .newarray, .anewarray, .arraylength, .athrow, .checkcast,
   .instanceof, .monitorenter, .monitorexit, .multianewarray, .ifnull, .ifnonnull]

/-- The opcode byte. -/
def code : Opcode → UInt8
  | .nop => 0x00
  | .aconstNull => 0x01
  | .iconstM1 => 0x02
  | .iconst0 => 0x03
  | .iconst1 => 0x04
  | .iconst2 => 0x05
  | .iconst3 => 0x06
  | .iconst4 => 0x07
  | .iconst5 => 0x08
  | .lconst0 => 0x09
  | .lconst1 => 0x0a
  | .fconst0 => 0x0b
  | .fconst1 => 0x0c
  | .fconst2 => 0x0d
  | .dconst0 => 0x0e
  | .dconst1 => 0x0f
  | .bipush => 0x10
  | .sipush => 0x11
  | .ldc => 0x12
  | .iload => 0x15
  | .lload => 0x16
  | .fload => 0x17
  | .dload => 0x18
  | .aload => 0x19
  | .iaload => 0x2e
  | .laload => 0x2f
  | .faload => 0x30
  | .daload => 0x31
  | .aaload => 0x32
  | .baload => 0x33
  | .caload => 0x34
  | .saload => 0x35
  | .istore => 0x36
  | .lstore => 0x37
  | .fstore => 0x38
  | .dstore => 0x39
  | .astore => 0x3a
  | .iastore => 0x4f
  | .lastore => 0x50
  | .fastore => 0x51
  | .dastore => 0x52
  | .aastore => 0x53
  | .bastore => 0x54
  | .castore => 0x55
  | .sastore => 0x56
  | .pop => 0x57
  | .pop2 => 0x58
  | .dup => 0x59
  | .dupX1 => 0x5a
  | .dupX2 => 0x5b
  | .dup2 => 0x5c
  | .dup2X1 => 0x5d
  | .dup2X2 => 0x5e
  | .swap => 0x5f
  | .iadd => 0x60
  | .ladd => 0x61
  | .fadd => 0x62
  | .dadd => 0x63
  | .isub => 0x64
  | .lsub => 0x65
  | .fsub => 0x66
  | .dsub => 0x67
  | .imul => 0x68
  | .lmul => 0x69
  | .fmul => 0x6a
  | .dmul => 0x6b
  | .idiv => 0x6c
  | .ldiv => 0x6d
  | .fdiv => 0x6e
  | .ddiv => 0x6f
  | .irem => 0x70
  | .lrem => 0x71
  | .frem => 0x72
  | .drem => 0x73
  | .ineg => 0x74
  | .lneg => 0x75
  | .fneg => 0x76
  | .dneg => 0x77
  | .ishl => 0x78
  | .lshl => 0x79
  | .ishr => 0x7a
  | .lshr => 0x7b
  | .iushr => 0x7c
  | .lushr => 0x7d
  | .iand => 0x7e
  | .land => 0x7f
  | .ior => 0x80
  | .lor => 0x81
  | .ixor => 0x82
  | .lxor => 0x83
  | .iinc => 0x84
  | .i2l => 0x85
  | .i2f => 0x86
  | .i2d => 0x87
  | .l2i => 0x88
  | .l2f => 0x89
  | .l2d => 0x8a
  | .f2i => 0x8b
  | .f2l => 0x8c
  | .f2d => 0x8d
  | .d2i => 0x8e
  | .d2l => 0x8f
  | .d2f => 0x90
  | .i2b => 0x91
  | .i2c => 0x92
  | .i2s => 0x93
  | .lcmp => 0x94
  | .fcmpl => 0x95
  | .fcmpg => 0x96
  | .dcmpl => 0x97
  | .dcmpg => 0x98
  | .ifeq => 0x99
  | .ifne => 0x9a
  | .iflt => 0x9b
  | .ifge => 0x9c
  | .ifgt => 0x9d
  | .ifle => 0x9e
  | .ifIcmpeq => 0x9f
  | .ifIcmpne => 0xa0
  | .ifIcmplt => 0xa1
  | .ifIcmpge => 0xa2
  | .ifIcmpgt => 0xa3
  | .ifIcmple => 0xa4
  | .ifAcmpeq => 0xa5
  | .ifAcmpne => 0xa6
  | .goto => 0xa7
  | .jsr => 0xa8
  | .ret => 0xa9
  | .tableswitch => 0xaa
  | .lookupswitch => 0xab
  | .ireturn => 0xac
  | .lreturn => 0xad
  | .freturn => 0xae
  | .dreturn => 0xaf
  | .areturn => 0xb0
  | .returnVoid => 0xb1
  | .getstatic => 0xb2
  | .putstatic => 0xb3
  | .getfield => 0xb4
  | .putfield => 0xb5
  | .invokevirtual => 0xb6
  | .invokespecial => 0xb7
  | .invokestatic => 0xb8
  | .invokeinterface => 0xb9
  | .invokedynamic => 0xba
  | .new => 0xbb
  | .newarray => 0xbc
  | .anewarray => 0xbd
  | .arraylength => 0xbe
  | .athrow => 0xbf
  | .checkcast => 0xc0
  | .instanceof => 0xc1
  | .monitorenter => 0xc2
  | .monitorexit => 0xc3
  | .multianewarray => 0xc5
  | .ifnull => 0xc6
  | .ifnonnull => 0xc7

/-- The opcode with a given byte; bytes that are unassigned or encode a short form have none. -/
def ofCode? (byte : UInt8) : Option Opcode :=
  all.find? fun opcode => opcode.code == byte

/-- The mnemonic, which is also the text of an opcode in a listing. -/
def mnemonic : Opcode → String
  | .nop => "nop"
  | .aconstNull => "aconst_null"
  | .iconstM1 => "iconst_m1"
  | .iconst0 => "iconst_0"
  | .iconst1 => "iconst_1"
  | .iconst2 => "iconst_2"
  | .iconst3 => "iconst_3"
  | .iconst4 => "iconst_4"
  | .iconst5 => "iconst_5"
  | .lconst0 => "lconst_0"
  | .lconst1 => "lconst_1"
  | .fconst0 => "fconst_0"
  | .fconst1 => "fconst_1"
  | .fconst2 => "fconst_2"
  | .dconst0 => "dconst_0"
  | .dconst1 => "dconst_1"
  | .bipush => "bipush"
  | .sipush => "sipush"
  | .ldc => "ldc"
  | .iload => "iload"
  | .lload => "lload"
  | .fload => "fload"
  | .dload => "dload"
  | .aload => "aload"
  | .iaload => "iaload"
  | .laload => "laload"
  | .faload => "faload"
  | .daload => "daload"
  | .aaload => "aaload"
  | .baload => "baload"
  | .caload => "caload"
  | .saload => "saload"
  | .istore => "istore"
  | .lstore => "lstore"
  | .fstore => "fstore"
  | .dstore => "dstore"
  | .astore => "astore"
  | .iastore => "iastore"
  | .lastore => "lastore"
  | .fastore => "fastore"
  | .dastore => "dastore"
  | .aastore => "aastore"
  | .bastore => "bastore"
  | .castore => "castore"
  | .sastore => "sastore"
  | .pop => "pop"
  | .pop2 => "pop2"
  | .dup => "dup"
  | .dupX1 => "dup_x1"
  | .dupX2 => "dup_x2"
  | .dup2 => "dup2"
  | .dup2X1 => "dup2_x1"
  | .dup2X2 => "dup2_x2"
  | .swap => "swap"
  | .iadd => "iadd"
  | .ladd => "ladd"
  | .fadd => "fadd"
  | .dadd => "dadd"
  | .isub => "isub"
  | .lsub => "lsub"
  | .fsub => "fsub"
  | .dsub => "dsub"
  | .imul => "imul"
  | .lmul => "lmul"
  | .fmul => "fmul"
  | .dmul => "dmul"
  | .idiv => "idiv"
  | .ldiv => "ldiv"
  | .fdiv => "fdiv"
  | .ddiv => "ddiv"
  | .irem => "irem"
  | .lrem => "lrem"
  | .frem => "frem"
  | .drem => "drem"
  | .ineg => "ineg"
  | .lneg => "lneg"
  | .fneg => "fneg"
  | .dneg => "dneg"
  | .ishl => "ishl"
  | .lshl => "lshl"
  | .ishr => "ishr"
  | .lshr => "lshr"
  | .iushr => "iushr"
  | .lushr => "lushr"
  | .iand => "iand"
  | .land => "land"
  | .ior => "ior"
  | .lor => "lor"
  | .ixor => "ixor"
  | .lxor => "lxor"
  | .iinc => "iinc"
  | .i2l => "i2l"
  | .i2f => "i2f"
  | .i2d => "i2d"
  | .l2i => "l2i"
  | .l2f => "l2f"
  | .l2d => "l2d"
  | .f2i => "f2i"
  | .f2l => "f2l"
  | .f2d => "f2d"
  | .d2i => "d2i"
  | .d2l => "d2l"
  | .d2f => "d2f"
  | .i2b => "i2b"
  | .i2c => "i2c"
  | .i2s => "i2s"
  | .lcmp => "lcmp"
  | .fcmpl => "fcmpl"
  | .fcmpg => "fcmpg"
  | .dcmpl => "dcmpl"
  | .dcmpg => "dcmpg"
  | .ifeq => "ifeq"
  | .ifne => "ifne"
  | .iflt => "iflt"
  | .ifge => "ifge"
  | .ifgt => "ifgt"
  | .ifle => "ifle"
  | .ifIcmpeq => "if_icmpeq"
  | .ifIcmpne => "if_icmpne"
  | .ifIcmplt => "if_icmplt"
  | .ifIcmpge => "if_icmpge"
  | .ifIcmpgt => "if_icmpgt"
  | .ifIcmple => "if_icmple"
  | .ifAcmpeq => "if_acmpeq"
  | .ifAcmpne => "if_acmpne"
  | .goto => "goto"
  | .jsr => "jsr"
  | .ret => "ret"
  | .tableswitch => "tableswitch"
  | .lookupswitch => "lookupswitch"
  | .ireturn => "ireturn"
  | .lreturn => "lreturn"
  | .freturn => "freturn"
  | .dreturn => "dreturn"
  | .areturn => "areturn"
  | .returnVoid => "return"
  | .getstatic => "getstatic"
  | .putstatic => "putstatic"
  | .getfield => "getfield"
  | .putfield => "putfield"
  | .invokevirtual => "invokevirtual"
  | .invokespecial => "invokespecial"
  | .invokestatic => "invokestatic"
  | .invokeinterface => "invokeinterface"
  | .invokedynamic => "invokedynamic"
  | .new => "new"
  | .newarray => "newarray"
  | .anewarray => "anewarray"
  | .arraylength => "arraylength"
  | .athrow => "athrow"
  | .checkcast => "checkcast"
  | .instanceof => "instanceof"
  | .monitorenter => "monitorenter"
  | .monitorexit => "monitorexit"
  | .multianewarray => "multianewarray"
  | .ifnull => "ifnull"
  | .ifnonnull => "ifnonnull"

/-- The opcode with a given mnemonic. -/
def ofMnemonic? (text : String) : Option Opcode :=
  all.find? fun opcode => opcode.mnemonic == text

/-- Branch opcodes with one target: the conditional jumps, `goto` and `jsr`. -/
def isJump : Opcode → Bool
  | .ifeq | .ifne | .iflt | .ifge | .ifgt | .ifle
  | .ifIcmpeq | .ifIcmpne | .ifIcmplt | .ifIcmpge | .ifIcmpgt | .ifIcmple
  | .ifAcmpeq | .ifAcmpne | .goto | .jsr | .ifnull | .ifnonnull => true
  | _ => false

/-- Opcodes that read or write a field. -/
def isFieldAccess : Opcode → Bool
  | .getstatic | .putstatic | .getfield | .putfield => true
  | _ => false

/-- Opcodes that read a field. -/
def isFieldRead : Opcode → Bool
  | .getstatic | .getfield => true
  | _ => false

/-- Opcodes that call a method, dynamic call sites included. -/
def isInvoke : Opcode → Bool
  | .invokevirtual | .invokespecial | .invokestatic | .invokeinterface | .invokedynamic => true
  | _ => false

/-- Member accesses that take no receiver from the stack. -/
def isStaticAccess : Opcode → Bool
  | .getstatic | .putstatic | .invokestatic | .invokedynamic => true
  | _ => false

/-- Opcodes that push their own operand, an `int`. -/
def isImmediatePush : Opcode → Bool
  | .bipush | .sipush => true
  | _ => false

instance : ToString Opcode := ⟨mnemonic⟩

end Opcode

end ConstProp
