/-! A mean that is kept up to date sample by sample. Each update works on the previous mean and
count only, so a sequence of samples always gives the same float. -/

namespace FogNetwork

structure Average where
  count : Nat
  mean : Float

namespace Average

def ofSample (sample : Float) : Average := ⟨1, sample⟩

def push (average : Average) (sample : Float) : Average :=
  let count := Float.ofNat average.count
  ⟨average.count + 1, (average.mean * count + sample) / (count + 1.0)⟩

def extend (average? : Option Average) (sample : Float) : Average :=
  match average? with
  | none => ofSample sample
  | some average => average.push sample

end Average
end FogNetwork
