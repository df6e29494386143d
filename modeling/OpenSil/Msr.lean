import Mathlib.Logic.Function.Basic

/-! # Model-specific registers -/

namespace OpenSil

abbrev Msrs := BitVec 32 → BitVec 64

namespace Msr

def patchLevel : BitVec 32 := 0x8B
def sysCfg : BitVec 32 := 0xC0010010
def tom : BitVec 32 := 0xC001001A
def tom2 : BitVec 32 := 0xC001001D
def pstateCurLim : BitVec 32 := 0xC0010061
def pstateDef : BitVec 32 := 0xC0010064
def lsRmpBase : BitVec 32 := 0xC0010132
def lsRmpEnd : BitVec 32 := 0xC0010133

end Msr

def xUslWrMsr (msrs : Msrs) (address : BitVec 32) (value : BitVec 64) : Msrs := Function.update msrs address value

def xUslMsrOr (msrs : Msrs) (index : BitVec 32) (orData : BitVec 64) : Msrs :=
  xUslWrMsr msrs index (msrs index ||| orData)

def xUslMsrAnd (msrs : Msrs) (index : BitVec 32) (andData : BitVec 64) : Msrs :=
  xUslWrMsr msrs index (msrs index &&& andData)

end OpenSil
