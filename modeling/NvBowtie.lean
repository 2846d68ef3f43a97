import NvBowtie.Termination
