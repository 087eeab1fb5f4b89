import Covenant.Text.Unicode.Runs

/-!
# Directions and joining of characters

The bidirectional class of a character says how it is laid out: left to right (`L`), right to
left (`R`, and `AL` for Arabic letters), digits (`EN`, and `AN` for Arabic-Indic digits),
marks that take the direction of what they follow (`NSM`), and neutral or formatting classes.

The joining type says how a character of a cursive script connects to its neighbours:
on both sides (`dual`), only to the one after or before it (`left`, `right`), not at all
(`none`), or not affecting joining (`transparent`), with the joining tatweel and joiner as
`joinCausing`. Viramas are the marks that kill the vowel of the consonant before them (canonical
combining class 9); a joiner may follow one.
-/

namespace Covenant.Text.Unicode

/-- A bidirectional class. -/
inductive BidiClass where
  | L
  | R
  | AL
  | EN
  | ES
  | ET
  | AN
  | CS
  | NSM
  | BN
  | B
  | S
  | WS
  | ON
  | LRE
  | LRO
  | RLE
  | RLO
  | PDF
  | LRI
  | RLI
  | FSI
  | PDI
  deriving DecidableEq, Repr, Inhabited

/-- The classes in the order the table numbers them. -/
def BidiClass.all : Array BidiClass :=
  #[.L, .R, .AL, .EN, .ES, .ET, .AN, .CS, .NSM, .BN, .B, .S, .WS, .ON, .LRE, .LRO, .RLE, .RLO, .PDF, .LRI, .RLI, .FSI, .PDI]

/-- Where each run of one bidirectional class starts, with the class's number. -/
def bidiTable : String :=
  String.join
    ["0.9 9.b a.a b.b c.c d.a e.9 s.a v.b w.c x.d z.5 12.d 17.4 18.7 19.4 1a.7 1c.3 1m.7 1n.d 1t.0 ",
     "2j.d 2p.0 3f.d 3j.9 3p.a 3q.9 4g.7 4h.d 4i.5 4m.d 4q.0 4r.d 4t.9 4u.d 4w.5 4y.3 50.d 51.0 52.d ",
     "55.3 56.0 57.d 5c.0 5z.d 60.0 6v.d 6w.0 jd.d jf.0 jm.d k0.0 k2.d kg.0 kl.d ku.0 kv.d lc.8 og.0 ",
     "ok.d om.0 ou.d ov.0 p0.d p2.0 p3.d p4.0 s6.d s7.0 w3.8 wa.0 13e.d 13f.0 13h.d 13j.5 13k.1 13l.8 ",
     "14u.1 14v.8 14w.1 14x.8 14z.1 150.8 152.1 153.8 154.1 16o.6 16u.d 16w.2 16x.5 16z.2 170.7 171.2 ",
     "172.d 174.8 17f.2 18r.8 19c.6 19m.5 19n.6 19p.2 19s.8 19t.2 1cm.8 1ct.6 1cu.d 1cv.8 1d1.2 1d3.8 ",
     "1d5.d 1d6.8 1da.2 1dc.3 1dm.2 1e9.8 1ea.2 1f4.8 1fv.2 1ie.8 1ip.2 1j4.1 1kb.8 1kk.1 1km.d 1kq.1 ",
     "1kt.8 1ku.1 1li.8 1lm.1 1ln.8 1lw.1 1lx.8 1m0.1 1m1.8 1m6.1 1nd.8 1ng.1 1nk.2 1ow.6 1oy.2 1p4.8 ",
     "1pc.2 1qi.8 1r6.6 1r7.8 1s3.0 1tm.8 1tn.0 1to.8 1tp.0 1tt.8 1u1.0 1u5.8 1u6.0 1u9.8 1ug.0 1uq.8 ",
     "1us.0 1vl.8 1vm.0 1x8.8 1x9.0 1xd.8 1xh.0 1xp.8 1xq.0 1ya.8 1yc.0 1yq.5 1ys.0 1yz.5 1z0.0 1z2.8 ",
     "1z3.0 1z5.8 1z7.0 20s.8 20t.0 20x.8 20z.0 213.8 215.0 217.8 21a.0 21d.8 21e.0 228.8 22a.0 22d.8 ",
     "22e.0 22p.8 22r.0 24c.8 24d.0 24h.8 24m.0 24n.8 24p.0 24t.8 24u.0 25e.8 25g.0 25t.5 25u.0 262.8 ",
     "268.0 269.8 26a.0 27w.8 27x.0 27z.8 280.0 281.8 285.0 28d.8 28e.0 28l.8 28n.0 28y.8 290.0 29u.8 ",
     "29v.0 2bk.8 2bl.0 2bx.8 2by.0 2cz.d 2d5.5 2d6.d 2d7.0 2dc.8 2dd.0 2dg.8 2dh.0 2f0.8 2f1.0 2f2.8 ",
     "2f5.0 2fa.8 2fd.0 2fe.8 2fi.0 2fp.8 2fr.0 2g2.8 2g4.0 2go.d 2gv.0 2gx.8 2gy.0 2ik.8 2il.0 2j0.8 ",
     "2j2.0 2jm.8 2jo.0 2kg.8 2ki.0 2m3.8 2m5.0 2m9.8 2md.0 2ml.8 2mm.0 2n6.8 2n8.0 2o1.8 2o2.0 2q2.8 ",
     "2q3.0 2qa.8 2qd.0 2qe.8 2qf.0 2sx.8 2sy.0 2t0.8 2t7.0 2tb.5 2tc.0 2tj.8 2tr.0 2wh.8 2wi.0 2wk.8 ",
     "2wt.0 2x4.8 2xb.0 2zc.8 2ze.0 305.8 306.0 307.8 308.0 309.8 30a.d 30e.0 31t.8 327.0 328.8 32d.0 ",
     "32e.8 32g.0 32l.8 32w.0 32x.8 33x.0 346.8 347.0 371.8 375.0 376.8 37c.0 37d.8 37f.0 37h.8 37j.0 ",
     "388.8 38a.0 38e.8 38h.0 38x.8 391.0 39e.8 39f.0 39h.8 39j.0 39p.8 39q.0 3a5.8 3a6.0 3tp.8 3ts.0 ",
     "3v4.d 3ve.0 3y8.d 3y9.0 4g0.c 4g1.0 4gr.d 4gt.0 4k2.8 4k5.0 4ky.8 4l0.0 4lu.8 4lw.0 4mq.8 4ms.0 ",
     "4ok.8 4om.0 4on.8 4ou.0 4p2.8 4p3.0 4p5.8 4pg.0 4pn.5 4po.0 4pp.8 4pq.0 4q8.d 4qi.0 4qo.d 4qz.8 ",
     "4r2.9 4r3.8 4r4.0 4ud.8 4uf.0 4vd.8 4ve.0 4yo.8 4yr.0 4yv.8 4yx.0 4z6.8 4z7.0 4zd.8 4zg.0 4zk.d ",
     "4zl.0 4zo.d 4zq.0 53y.d 54w.0 55j.8 55l.0 55n.8 55o.0 57a.8 57b.0 57c.8 57j.0 57k.8 57l.0 57m.8 ",
     "57n.0 57p.8 57x.0 583.8 58d.0 58f.8 58g.0 59s.8 5an.0 5c0.8 5c4.0 5dg.8 5dh.0 5di.8 5dn.0 5do.8 ",
     "5dp.0 5du.8 5dv.0 5ez.8 5f8.0 5fk.8 5fm.0 5gi.8 5gm.0 5go.8 5gq.0 5gr.8 5gu.0 5ie.8 5if.0 5ig.8 ",
     "5ii.0 5il.8 5im.0 5in.8 5iq.0 5kc.8 5kk.0 5km.8 5ko.0 5ow.8 5oz.0 5p0.8 5pd.0 5pe.8 5pl.0 5pp.8 ",
     "5pq.0 5pw.8 5px.0 5q0.8 5q2.0 5vk.8 5xc.0 69p.d 69q.0 69r.d 69u.0 6a5.d 6a8.0 6al.d 6ao.0 6b1.d ",
     "6b4.0 6bh.d 6bj.0 6bk.c 6bv.9 6by.0 6bz.1 6c0.d 6co.c 6cp.a 6cq.e 6cr.g 6cs.i 6ct.f 6cu.h 6cv.7 ",
     "6cw.5 6d1.d 6dg.7 6dh.d 6e7.c 6e8.9 6ee.j 6ef.k 6eg.l 6eh.m 6ei.9 6eo.3 6ep.0 6es.3 6ey.4 6f0.d ",
     "6f3.0 6f4.3 6fe.4 6fg.d 6fj.0 6g0.5 6hc.8 6i9.0 6io.d 6iq.0 6ir.d 6iv.0 6iw.d 6iy.0 6j8.d 6j9.0 ",
     "6ja.d 6jd.0 6ji.d 6jo.0 6jp.d 6jq.0 6jr.d 6js.0 6jt.d 6ju.0 6jy.5 6jz.0 6ka.d 6kc.0 6kg.d 6kl.0 ",
     "6kq.d 6ku.0 6kw.d 6lc.0 6mh.d 6mk.0 6mo.d 6qa.4 6qb.5 6qc.d 6ye.0 70b.d 711.0 712.d 753.0 75s.d ",
     "763.0 76o.d 77s.3 78c.0 7ai.d 7n0.0 7n1.d 7wg.0 83k.d 8l0.0 8l2.d 8ly.0 8lz.d 8ow.0 8v9.d 8vf.0 ",
     "8vj.8 8vm.0 8vt.d 8w0.0 8zj.8 8zk.0 928.8 934.d 95q.0 96o.d 97e.0 97f.d 99w.0 9a8.d 9g6.0 9gw.d ",
     "9h8.0 9hc.c 9hd.d 9hh.0 9hk.d 9i9.0 9ii.8 9im.0 9io.d 9ip.0 9iu.d 9iw.0 9j1.d 9j4.0 9ll.8 9ln.d ",
     "9lp.0 9ls.d 9lt.0 9ob.d 9oc.0 9ts.d 9us.0 9wd.d 9wf.0 9xs.d 9y8.0 9z0.d 9z3.0 a0h.d a0w.0 a18.d ",
     "a1c.0 a5z.d a63.0 a8u.d a8w.0 a9r.d a9s.0 fcw.d feo.0 wi8.d wjr.0 wst.d wsw.0 wvj.8 wvn.d wvo.8 ",
     "wvy.d ww0.0 wwu.8 www.0 wz4.8 wz6.0 wzk.d x0i.0 x3c.d x3d.0 x6q.8 x6r.0 x6u.8 x6v.0 x6z.8 x70.0 ",
     "x7p.8 x7r.0 x7s.d x7w.8 x7x.0 x88.5 x8a.0 x9w.d xa0.0 xc4.8 xc6.0 xcw.8 xde.0 xdr.8 xds.0 xeu.8 ",
     "xf2.0 xfr.8 xg2.0 xhc.8 xhf.0 xir.8 xis.0 xiu.8 xiy.0 xj0.8 xj2.0 xk5.8 xk6.0 xm1.8 xm7.0 xm9.8 ",
     "xmb.0 xmd.8 xmf.0 xmr.8 xms.0 xn0.8 xn1.0 xoc.8 xod.0 xps.8 xpt.0 xpu.8 xpx.0 xpz.8 xq1.0 xq6.8 ",
     "xq8.0 xq9.8 xqa.0 xrg.8 xri.0 xrq.8 xrr.0 xuy.d xv0.0 xyd.8 xye.0 xyg.8 xyh.0 xyl.8 xym.0 1dlp.1 ",
     "1dlq.8 1dlr.1 1dm1.4 1dm2.1 1dn4.2 1e0u.d 1e1c.2 1e4v.d 1e4w.9 1e5s.2 1e65.d 1e68.8 1e6o.d ",
     "1e6y.0 1e74.8 1e7k.d 1e8g.7 1e8h.d 1e8i.7 1e8j.0 1e8k.d 1e8l.7 1e8m.d 1e8v.5 1e8w.d 1e8y.4 ",
     "1e90.d 1e93.0 1e94.d 1e95.5 1e97.d 1e98.0 1e9c.2 1edb.9 1edc.0 1edd.d 1edf.5 1edi.d 1edn.4 ",
     "1edo.7 1edp.4 1edq.7 1eds.3 1ee2.7 1ee3.d 1ee9.0 1eez.d 1ef5.0 1efv.d 1eg6.0 1ejk.5 1ejm.d ",
     "1ejp.5 1ejr.0 1ejs.d 1ejz.0 1ek0.9 1ek9.d 1eke.9 1ekg.0 1erl.d 1erm.0 1etc.d 1evh.0 1evk.d ",
     "1evx.0 1ew0.d 1ew1.0 1eyl.8 1eym.0 1f4w.8 1f4x.3 1f5o.0 1f92.8 1f97.0 1g5c.1 1gdb.d 1gdc.1 ",
     "1gjl.8 1gjo.1 1gjp.8 1gjr.1 1gjw.8 1gk0.1 1gl4.8 1gl7.1 1glb.8 1glc.1 1gpx.8 1gpz.1 1gs9.d ",
     "1gsg.1 1h4w.2 1h5w.8 1h60.2 1h68.6 1h6i.2 1h6o.1 1heo.6 1hfj.1 1hgr.8 1hgt.1 1hhc.2 1hj1.8 ",
     "1hj4.1 1hkg.2 1hl2.8 1hld.2 1hm8.1 1hmq.8 1hmu.1 1hq8.0 1hq9.8 1hqa.0 1hrs.8 1hs7.0 1hsi.d ",
     "1ht2.0 1htc.8 1htd.0 1htf.8 1hth.0 1htr.8 1htu.0 1hv7.8 1hvb.0 1hvd.8 1hvf.0 1hvm.8 1hvn.0 ",
     "1hxc.8 1hxf.0 1hyf.8 1hyk.0 1hyl.8 1hyt.0 1i0j.8 1i0k.0 1i0w.8 1i0y.0 1i2e.8 1i2n.0 1i2x.8 ",
     "1i31.0 1i33.8 1i34.0 1i5r.8 1i5u.0 1i5w.8 1i5x.0 1i5y.8 1i60.0 1i66.8 1i67.0 1i69.8 1i6a.0 ",
     "1ian.8 1iao.0 1iar.8 1iaz.0 1ibk.8 1ibm.0 1id7.8 1id9.0 1idc.8 1idd.0 1iee.8 1iel.0 1ieo.8 ",
     "1iet.0 1ik8.8 1ikg.0 1iki.8 1ikl.0 1ikm.8 1ikn.0 1ila.8 1ilb.0 1inn.8 1int.0 1inu.8 1inv.0 ",
     "1inz.8 1io1.0 1io2.8 1io4.0 1iuq.8 1iuu.0 1iv0.8 1iv2.0 1iv3.8 1iv5.0 1ivw.8 1ivy.0 1iyb.8 ",
     "1iyj.0 1iyl.8 1iym.0 1iyn.8 1iyp.0 1izk.d 1izx.0 1j1n.8 1j1o.0 1j1p.8 1j1q.0 1j1s.8 1j1y.0 ",
     "1j1z.8 1j20.0 1j4t.8 1j4w.0 1j4y.8 1j52.0 1j53.8 1j58.0 1jcf.8 1jco.0 1jcp.8 1jcr.0 1jjv.8 ",
     "1jjx.0 1jjy.8 1jjz.0 1jk3.8 1jk4.0 1jo4.8 1jo8.0 1joa.8 1joc.0 1jog.8 1joh.0 1jpd.8 1jpj.0 ",
     "1jpl.8 1jpn.0 1jqr.8 1jqx.0 1jqz.8 1jr3.0 1jrb.8 1jrc.0 1jrl.8 1jrr.0 1jrt.8 1jrw.0 1jt6.8 ",
     "1jtj.0 1jtk.8 1jtm.0 1k4w.8 1k53.0 1k54.8 1k5a.0 1k7m.8 1k88.0 1k8a.8 1k8h.0 1k8i.8 1k8k.0 ",
     "1k8l.8 1k8n.0 1kc1.8 1kc7.0 1kca.8 1kcb.0 1kcc.8 1kce.0 1kcf.8 1kcm.0 1kcn.8 1kco.0 1keo.8 ",
     "1keq.0 1ket.8 1keu.0 1kev.8 1kew.0 1koj.8 1kol.0 1kow.8 1koy.0 1kqe.8 1kqj.0 1kqo.8 1kqp.0 ",
     "1kqq.8 1kqr.0 1kut.d 1kv1.5 1kv5.d 1kvm.0 1ow0.8 1ow1.0 1ow7.8 1owm.0 1zow.8 1zp1.0 1zqo.8 ",
     "1zqv.0 20jz.8 20k0.0 20lr.8 20lv.0 20o2.d 20o3.0 20o4.8 20o5.0 2ftp.8 2ftr.0 2fts.9 2ftw.0 ",
     "2jgg.8 2jhq.0 2jhs.8 2jif.0 2jxj.8 2jxm.0 2jxv.9 2jy3.8 2jyb.0 2jyd.8 2jyk.0 2jze.8 2jzi.0 ",
     "2k15.d 2k17.0 2k1s.d 2k3m.8 2k3p.d 2k3q.0 2k8w.d 2kbb.0 2l0b.d 2l0c.0 2l1x.d 2l1y.0 2l3j.d ",
     "2l3k.0 2l55.d 2l56.0 2l6r.d 2l6s.0 2l72.3 2l8g.0 2lmo.8 2lo7.0 2lob.8 2lpp.0 2lpx.8 2lpy.0 ",
     "2lqc.8 2lqd.0 2lqz.8 2lr4.0 2lr5.8 2lrk.0 2mtc.8 2mtj.0 2mtk.8 2mu1.0 2mu3.8 2mua.0 2mub.8 ",
     "2mud.0 2mue.8 2muj.0 2mxb.8 2mxc.0 2n1s.8 2n1z.0 2nce.8 2ncf.0 2ne4.8 2ne8.0 2nen.5 2neo.0 ",
     "2nsc.8 2nsg.0 2oe8.1 2ok0.8 2ok7.1 2on8.8 2onf.1 2p9s.2 2pc0.1 2pds.2 2pg0.1 2pkw.2 2prk.d ",
     "2prm.2 2ps0.1 2pz4.d 2q0c.0 2q0g.d 2q38.0 2q3k.d 2q3z.0 2q41.d 2q4g.0 2q4h.d 2q4w.0 2q4x.d ",
     "2q5y.0 2q68.3 2q6j.d 2q6o.0 2q7j.d 2q7k.0 2q96.d 2q9c.0 2qb1.d 2qb2.0 2qg0.d 2qg6.0 2qkg.d ",
     "2rbs.0 2rbw.d 2rcd.0 2rcg.d 2rct.0 2rcw.d 2rg7.0 2rgb.d 2riy.0 2rj4.d 2rjg.0 2rjk.d 2rjl.0 ",
     "2rk0.d 2rkc.0 2rkg.d 2rm0.0 2rm8.d 2rmi.0 2rmo.d 2rns.0 2ro0.d 2rou.0 2row.d 2roy.0 2rr4.d ",
     "2s0k.0 2s0w.d 2s1a.0 2s1c.d 2s1p.0 2s1s.d 2s21.0 2s28.d 2s3i.0 2s3j.d 2s3q.0 2s3y.d 2s4c.0 ",
     "2s4g.d 2s4p.0 2s4w.d 2s55.0 2s5c.d 2s9f.0 2s9g.d 2saz.0 2sc0.3 2sca.0 2t4u.9 2t4w.0 47pa.9 ",
     "47pc.0 5m9q.9 5m9s.0 70u6.9 70u8.0 8fem.9 8feo.0 9tz2.9 9tz4.0 b8ji.9 b8jk.0 cn3y.9 cn40.0 ",
     "e1oe.9 e1og.0 fg8u.9 fg8w.0 guta.9 gutc.0 i9dq.9 i9ds.0 jny6.9 jo5c.8 joc0.9 jr40.0 l2im.9 ",
     "l2io.0 mh32.9 mh34.0 nvni.9 nvnk.0"]

def bidiRuns : Array (Nat × Nat) := readRuns bidiTable

/-- The bidirectional class of a character. -/
def BidiClass.of (c : Char) : BidiClass := BidiClass.all.getD (runValue bidiRuns c.toNat) .L

/-- A joining type. -/
inductive JoiningType where
  | none
  | joinCausing
  | dual
  | left
  | right
  | transparent
  deriving DecidableEq, Repr, Inhabited

def JoiningType.all : Array JoiningType :=
  #[.none, .joinCausing, .dual, .left, .right, .transparent]

/-- Where each run of one joining type starts, with the type's number. -/
def joiningTable : String :=
  String.join
    ["0.0 4t.5 4u.0 lc.5 og.0 w3.5 wa.0 13l.5 14u.0 14v.5 14w.0 14x.5 14z.0 150.5 152.0 153.5 154.0 ",
     "174.5 17f.0 17g.5 17h.0 17k.2 17l.0 17m.4 17q.2 17r.4 17s.2 17t.4 17u.2 17z.4 183.2 18g.1 18h.2 ",
     "18o.4 18p.2 18r.5 19c.0 19q.2 19s.5 19t.4 19w.0 19x.4 1a0.2 1ag.4 1ay.2 1c0.4 1c1.2 1c3.4 1cc.2 ",
     "1cd.4 1ce.2 1cf.4 1cg.2 1ci.4 1ck.0 1cl.4 1cm.5 1ct.0 1cv.5 1d1.0 1d3.5 1d5.0 1d6.5 1da.4 1dc.0 ",
     "1dm.2 1dp.0 1dr.2 1ds.0 1e7.5 1e8.4 1e9.5 1ea.2 1ed.4 1ei.2 1em.4 1en.2 1ew.4 1ex.2 1ey.4 1ez.2 ",
     "1f0.4 1f1.2 1f3.4 1f4.5 1fv.0 1fx.4 1fy.2 1g9.4 1gc.2 1gr.4 1gt.2 1gx.4 1gy.2 1gz.4 1h1.2 1h4.4 ",
     "1h6.2 1hc.0 1ie.5 1ip.0 1je.2 1kb.5 1kk.0 1kq.1 1kr.0 1kt.5 1ku.0 1li.5 1lm.0 1ln.5 1lw.0 1lx.5 ",
     "1m0.0 1m1.5 1m6.0 1mo.4 1mp.2 1mu.4 1mw.2 1mx.4 1my.2 1n8.4 1n9.2 1na.4 1nd.5 1ng.0 1nk.2 1nl.0 ",
     "1nm.2 1nq.0 1nr.4 1ns.2 1nt.4 1nv.0 1o0.4 1oj.1 1om.2 1on.0 1op.2 1ou.4 1ov.0 1p4.5 1pc.2 1pm.4 ",
     "1pp.0 1pq.4 1pr.2 1pt.4 1pv.2 1q1.4 1q2.2 1qh.0 1qi.5 1r6.0 1r7.5 1s3.0 1tm.5 1tn.0 1to.5 1tp.0 ",
     "1tt.5 1u1.0 1u5.5 1u6.0 1u9.5 1ug.0 1uq.5 1us.0 1vl.5 1vm.0 1x8.5 1x9.0 1xd.5 1xh.0 1xp.5 1xq.0 ",
     "1ya.5 1yc.0 1z2.5 1z3.0 1z5.5 1z7.0 20s.5 20t.0 20x.5 20z.0 213.5 215.0 217.5 21a.0 21d.5 21e.0 ",
     "228.5 22a.0 22d.5 22e.0 22p.5 22r.0 24c.5 24d.0 24h.5 24m.0 24n.5 24p.0 24t.5 24u.0 25e.5 25g.0 ",
     "262.5 268.0 269.5 26a.0 27w.5 27x.0 27z.5 280.0 281.5 285.0 28d.5 28e.0 28l.5 28n.0 28y.5 290.0 ",
     "29u.5 29v.0 2bk.5 2bl.0 2bx.5 2by.0 2dc.5 2dd.0 2dg.5 2dh.0 2f0.5 2f1.0 2f2.5 2f5.0 2fa.5 2fd.0 ",
     "2fe.5 2fi.0 2fp.5 2fr.0 2g2.5 2g4.0 2gx.5 2gy.0 2ik.5 2il.0 2in.5 2io.0 2iu.5 2iv.0 2j0.5 2j2.0 ",
     "2jm.5 2jo.0 2kg.5 2ki.0 2m3.5 2m5.0 2m9.5 2md.0 2ml.5 2mm.0 2n6.5 2n8.0 2o1.5 2o2.0 2q2.5 2q3.0 ",
     "2qa.5 2qd.0 2qe.5 2qf.0 2sx.5 2sy.0 2t0.5 2t7.0 2tj.5 2tr.0 2wh.5 2wi.0 2wk.5 2wt.0 2x4.5 2xb.0 ",
     "2zc.5 2ze.0 305.5 306.0 307.5 308.0 309.5 30a.0 31t.5 327.0 328.5 32d.0 32e.5 32g.0 32l.5 32w.0 ",
     "32x.5 33x.0 346.5 347.0 371.5 375.0 376.5 37c.0 37d.5 37f.0 37h.5 37j.0 388.5 38a.0 38e.5 38h.0 ",
     "38x.5 391.0 39e.5 39f.0 39h.5 39j.0 39p.5 39q.0 3a5.5 3a6.0 3tp.5 3ts.0 4k2.5 4k5.0 4ky.5 4l0.0 ",
     "4lu.5 4lw.0 4mq.5 4ms.0 4ok.5 4om.0 4on.5 4ou.0 4p2.5 4p3.0 4p5.5 4pg.0 4pp.5 4pq.0 4qv.2 4qw.0 ",
     "4qy.1 4qz.5 4r2.0 4r3.5 4r4.0 4rk.2 4u1.0 4ud.5 4uf.2 4vd.5 4ve.2 4vf.0 4yo.5 4yr.0 4yv.5 4yx.0 ",
     "4z6.5 4z7.0 4zd.5 4zg.0 55j.5 55l.0 55n.5 55o.0 57a.5 57b.0 57c.5 57j.0 57k.5 57l.0 57m.5 57n.0 ",
     "57p.5 57x.0 583.5 58d.0 58f.5 58g.0 59s.5 5an.0 5c0.5 5c4.0 5dg.5 5dh.0 5di.5 5dn.0 5do.5 5dp.0 ",
     "5du.5 5dv.0 5ez.5 5f8.0 5fk.5 5fm.0 5gi.5 5gm.0 5go.5 5gq.0 5gr.5 5gu.0 5ie.5 5if.0 5ig.5 5ii.0 ",
     "5il.5 5im.0 5in.5 5iq.0 5kc.5 5kk.0 5km.5 5ko.0 5ow.5 5oz.0 5p0.5 5pd.0 5pe.5 5pl.0 5pp.5 5pq.0 ",
     "5pw.5 5px.0 5q0.5 5q2.0 5vk.5 5xc.0 6bv.5 6bw.0 6bx.1 6by.5 6c0.0 6cq.5 6cv.0 6e8.5 6ed.0 6ei.5 ",
     "6eo.0 6hc.5 6i9.0 8vj.5 8vm.0 8zj.5 8zk.0 928.5 934.0 9ii.5 9im.0 9ll.5 9ln.0 wvj.5 wvn.0 wvo.5 ",
     "wvy.0 wwu.5 www.0 wz4.5 wz6.0 x6q.5 x6r.0 x6u.5 x6v.0 x6z.5 x70.0 x7p.5 x7r.0 x7w.5 x7x.0 x8g.2 ",
     "x9u.3 x9v.0 xc4.5 xc6.0 xcw.5 xde.0 xdr.5 xds.0 xeu.5 xf2.0 xfr.5 xg2.0 xhc.5 xhf.0 xir.5 xis.0 ",
     "xiu.5 xiy.0 xj0.5 xj2.0 xk5.5 xk6.0 xm1.5 xm7.0 xm9.5 xmb.0 xmd.5 xmf.0 xmr.5 xms.0 xn0.5 xn1.0 ",
     "xoc.5 xod.0 xps.5 xpt.0 xpu.5 xpx.0 xpz.5 xq1.0 xq6.5 xq8.0 xq9.5 xqa.0 xrg.5 xri.0 xrq.5 xrr.0 ",
     "xyd.5 xye.0 xyg.5 xyh.0 xyl.5 xym.0 1dlq.5 1dlr.0 1e68.5 1e6o.0 1e74.5 1e7k.0 1edb.5 1edc.0 ",
     "1ek9.5 1ekc.0 1eyl.5 1eym.0 1f4w.5 1f4x.0 1f92.5 1f97.0 1gjl.5 1gjo.0 1gjp.5 1gjr.0 1gjw.5 ",
     "1gk0.0 1gl4.5 1gl7.0 1glb.5 1glc.0 1gow.2 1gp1.4 1gp2.0 1gp3.4 1gp4.0 1gp5.4 1gp7.0 1gp9.3 ",
     "1gpa.4 1gpf.2 1gpj.3 1gpk.2 1gpp.4 1gpq.2 1gpt.4 1gpu.0 1gpw.4 1gpx.5 1gpz.0 1gq3.2 1gq7.4 ",
     "1gq8.0 1gu8.2 1gu9.4 1gua.2 1gub.4 1gue.2 1guh.4 1gui.2 1guk.4 1gul.2 1gum.4 1guo.2 1gup.4 ",
     "1guq.0 1gvd.4 1gvh.2 1gvj.0 1h4w.3 1h4x.2 1h5u.4 1h5v.2 1h5w.5 1h60.0 1hgr.5 1hgt.0 1hj1.5 ",
     "1hj4.0 1hkg.2 1hkj.4 1hkk.2 1hl1.0 1hl2.5 1hld.2 1hlg.4 1hlh.0 1hm8.2 1hmc.4 1hme.2 1hmq.5 ",
     "1hmu.0 1ho0.2 1ho1.0 1ho2.2 1ho4.4 1ho7.0 1ho8.2 1ho9.4 1hob.2 1hod.4 1hoe.2 1hog.0 1hoh.2 ",
     "1hoi.4 1hok.2 1hol.0 1hop.4 1hoq.2 1hor.3 1hos.0 1hq9.5 1hqa.0 1hrs.5 1hs7.0 1htc.5 1htd.0 ",
     "1htf.5 1hth.0 1htr.5 1htu.0 1hv7.5 1hvb.0 1hvd.5 1hvf.0 1hvm.5 1hvn.0 1hxc.5 1hxf.0 1hyf.5 ",
     "1hyk.0 1hyl.5 1hyt.0 1i0j.5 1i0k.0 1i0w.5 1i0y.0 1i2e.5 1i2n.0 1i2x.5 1i31.0 1i33.5 1i34.0 ",
     "1i5r.5 1i5u.0 1i5w.5 1i5x.0 1i5y.5 1i60.0 1i66.5 1i67.0 1i69.5 1i6a.0 1ian.5 1iao.0 1iar.5 ",
     "1iaz.0 1ibk.5 1ibm.0 1id7.5 1id9.0 1idc.5 1idd.0 1iee.5 1iel.0 1ieo.5 1iet.0 1ik8.5 1ikg.0 ",
     "1iki.5 1ikl.0 1ikm.5 1ikn.0 1ila.5 1ilb.0 1inn.5 1int.0 1inu.5 1inv.0 1inz.5 1io1.0 1io2.5 ",
     "1io4.0 1iuq.5 1iuu.0 1iv0.5 1iv2.0 1iv3.5 1iv5.0 1ivw.5 1ivy.0 1iyb.5 1iyj.0 1iyl.5 1iym.0 ",
     "1iyn.5 1iyp.0 1j1n.5 1j1o.0 1j1p.5 1j1q.0 1j1s.5 1j1y.0 1j1z.5 1j20.0 1j4t.5 1j4w.0 1j4y.5 ",
     "1j52.0 1j53.5 1j58.0 1jcf.5 1jco.0 1jcp.5 1jcr.0 1jjv.5 1jjx.0 1jjy.5 1jjz.0 1jk3.5 1jk4.0 ",
     "1jo4.5 1jo8.0 1joa.5 1joc.0 1jog.5 1joh.0 1jpd.5 1jpn.0 1jqr.5 1jqx.0 1jqz.5 1jr3.0 1jrb.5 ",
     "1jrc.0 1jrl.5 1jrr.0 1jrt.5 1jrw.0 1jt6.5 1jtj.0 1jtk.5 1jtm.0 1k4w.5 1k53.0 1k54.5 1k5a.0 ",
     "1k5b.5 1k5c.0 1k7m.5 1k88.0 1k8a.5 1k8h.0 1k8i.5 1k8k.0 1k8l.5 1k8n.0 1kc1.5 1kc7.0 1kca.5 ",
     "1kcb.0 1kcc.5 1kce.0 1kcf.5 1kcm.0 1kcn.5 1kco.0 1keo.5 1keq.0 1ket.5 1keu.0 1kev.5 1kew.0 ",
     "1koj.5 1kol.0 1kow.5 1koy.0 1kqe.5 1kqj.0 1kqo.5 1kqp.0 1kqq.5 1kqr.0 1ovk.5 1ow1.0 1ow7.5 ",
     "1owm.0 1zow.5 1zp1.0 1zqo.5 1zqv.0 20jz.5 20k0.0 20lr.5 20lv.0 20o4.5 20o5.0 2ftp.5 2ftr.0 ",
     "2fts.5 2ftw.0 2jgg.5 2jhq.0 2jhs.5 2jif.0 2jxj.5 2jxm.0 2jxv.5 2jyb.0 2jyd.5 2jyk.0 2jze.5 ",
     "2jzi.0 2k3m.5 2k3p.0 2lmo.5 2lo7.0 2lob.5 2lpp.0 2lpx.5 2lpy.0 2lqc.5 2lqd.0 2lqz.5 2lr4.0 ",
     "2lr5.5 2lrk.0 2mtc.5 2mtj.0 2mtk.5 2mu1.0 2mu3.5 2mua.0 2mub.5 2mud.0 2mue.5 2muj.0 2mxb.5 ",
     "2mxc.0 2n1s.5 2n1z.0 2nce.5 2ncf.0 2ne4.5 2ne8.0 2nsc.5 2nsg.0 2ok0.5 2ok7.0 2olc.2 2on8.5 ",
     "2ong.0 jny9.5 jnya.0 jnz4.5 jo1s.0 jo5c.5 joc0.0"]

def joiningRuns : Array (Nat × Nat) := readRuns joiningTable

/-- The joining type of a character. -/
def JoiningType.of (c : Char) : JoiningType :=
  JoiningType.all.getD (runValue joiningRuns c.toNat) .none

/-- The viramas, in increasing order. -/
def viramaTable : String :=
  String.join
    ["1u5 1xp 219 24t 28d 2bx 2fh 2j1 2m3 2m4 2ml 2q2 2t6 2wq 32c 37d 37e 4k4 4k5 4l0 4pe 57k 5dw 5gq ",
     "5gr 5iq 5ir 8zj x6u x7w xc4 xg3 xj4 xrq xyl 1glb 1hs6 1htc 1htr 1hvd 1hyr 1hys 1i2o 1i5x 1iay ",
     "1idp 1iki 1io2 1iv3 1iyn 1j1y 1j57 1jcp 1jjx 1jjy 1jog 1jqs 1jrb 1jtl 1k5b 1kck 1kcl 1kev 1kqp ",
     "1kqq"]

def viramas : List Nat := (viramaTable.splitOn " ").map base36

/-- Whether a character is a virama. -/
def isVirama (c : Char) : Bool := viramas.contains c.toNat

end Covenant.Text.Unicode
